import NodeOpcua.AddressSpace.References

set_option autoImplicit false

/-!
# The caches for navigation

A node keeps what it has answered about its references: the lists of `findReferences`, the children, the
hierarchical references by the names of their targets, and the parent. Each of the four is emptied or
patched in other places. This file has the queries, and what adding and removing a reference does to
the caches.

## Main definitions

* `NodeCaches`, `Navigation`.
* `Navigation.findReferences`, `Navigation.getChildren`,
  `Navigation.getChildByName`, `Navigation.parent`.
* `Navigation.addReference`, `Navigation.removeReference`.

## Main results

* `Navigation.graph_addReference`, `Navigation.graph_removeReference`.

## Design

* The answers of the subtype tests are a function of the references, whichever it is. The standard
  reference types are in the address space.
* A node object is its identifier, since no node is created or deleted here.
* The map from names to references is the list of its references in the order of their insertion; an
  entry of the map is an array when two references or more have the name.
-/

namespace NodeOpcua

open NodeGraph

/-- What the subtype tests answer: that a reference type is a subtype of a standard one. -/
abbrev SubtypeTests := NodeGraph → StandardReferenceType → NodeIdText → Bool

/-- **The caches of a node.** -/
structure NodeCaches where
  _ref : NodeIdText → Bool → Option (List ReferenceImpl) := fun _ _ => none
  _children : Option (List NodeIdText) := none
  _childByNameMap : Option (List ReferenceImpl) := none
  _parent : Option (Option NodeIdText) := none

/-- **The nodes with their caches.** -/
structure Navigation where
  graph : NodeGraph
  caches : NodeIdText → NodeCaches

namespace NodeGraph

/-! ### What the references say -/

section

variable (g : NodeGraph)

/-- `findReferences_no_cache`. -/
def findReferences_no_cache (nodeId : NodeIdText) (referenceType : NodeIdText)
    (isForward : Bool) : List ReferenceImpl :=
  (g.allReferences nodeId).filter fun reference =>
    reference.isForward = isForward ∧ reference.referenceType = referenceType

/-- The node that a reference leads to, as `resolveReferenceNode` finds it. -/
def resolveReferenceNode (reference : ReferenceImpl) : Option NodeIdText :=
  (g.findNode reference.nodeId).map fun _ => reference.nodeId

/-- `_asObject`. -/
def _asObject (references : List ReferenceImpl) : List NodeIdText :=
  references.filterMap g.resolveReferenceNode

/-- The name under which a reference is in the map. -/
def targetName (reference : ReferenceImpl) : Option String :=
  (g.findNode reference.nodeId).map fun target => target.browseName.name.getD ""

/-- The namespace of the name of the target. -/
def targetNamespaceIndex (reference : ReferenceImpl) : Option UInt16 :=
  (g.findNode reference.nodeId).map fun target => target.browseName.namespaceIndex

/-! What a reference leads to depends on the attributes of the target. -/

lemma targetName_eq (q : ReferenceImpl) :
    g.targetName q = (g.attributes q.nodeId).map fun target => target.1.name.getD "" := by
  unfold targetName attributes
  cases g.findNode q.nodeId <;> rfl

lemma resolveReferenceNode_eq (q : ReferenceImpl) :
    g.resolveReferenceNode q = (g.attributes q.nodeId).map fun _ => q.nodeId := by
  unfold resolveReferenceNode attributes
  cases g.findNode q.nodeId <;> rfl

end

variable (tests : SubtypeTests)

/-- The type of the reference is a subtype of the standard one. -/
def isA (g : NodeGraph) (referenceType : StandardReferenceType) (reference : ReferenceImpl) : Bool :=
  g.isReferenceType reference.referenceType && tests g referenceType reference.referenceType

section

variable (g : NodeGraph) (nodeId : NodeIdText)

/-- `findReferencesEx`, of a standard type. -/
def referencesOf (referenceType : StandardReferenceType) (isForward : Bool) : List ReferenceImpl :=
  (g.allReferences nodeId).filter fun reference =>
    reference.isForward = isForward ∧ g.isA tests referenceType reference = true

/-- The children, as they are found without the cache. -/
def children : List NodeIdText :=
  g._asObject (g.referencesOf tests nodeId .HasChild true)

/-- The hierarchical references by name, as they are found without the cache. -/
def hierarchicalReferences : List ReferenceImpl :=
  (g.referencesOf tests nodeId .HierarchicalReferences true).filter fun reference =>
    (g.targetName reference).isSome

/-- `_setup_parent_item`. -/
def _setup_parent_item : Option NodeIdText :=
  if (g.own nodeId).isEmpty then none
  else (g.referencesOf tests nodeId .Aggregates false).head?.bind g.resolveReferenceNode

end

/-! ### The map from names to references -/

variable (g : NodeGraph) (_childByNameMap : List ReferenceImpl)

/-- `_add`. -/
def _add (reference : ReferenceImpl) :
    List ReferenceImpl :=
  if (g.targetName reference).isSome then _childByNameMap ++ [reference] else _childByNameMap

/-- `_remove`: an entry that is no array is deleted, whichever reference it is. -/
def _remove (reference : ReferenceImpl) :
    List ReferenceImpl :=
  match g.targetName reference with
  | none => _childByNameMap
  | some name =>
    let existing := _childByNameMap.filter fun r => g.targetName r = some name
    if 2 ≤ existing.length then _childByNameMap.filter fun r => r ≠ reference
    else _childByNameMap.filter fun r => g.targetName r ≠ some name

/-- `_select_by_browse_name`. -/
def _select_by_browse_name (name : String) (namespaceIndex : Option UInt16) : List ReferenceImpl :=
  _childByNameMap.filter fun reference => g.targetName reference = some name ∧
    (namespaceIndex.isSome → g.targetNamespaceIndex reference = namespaceIndex)

end NodeGraph

namespace Navigation

variable (tests : SubtypeTests)

/-- The caches of a node are replaced. -/
def setCaches (s : Navigation) (nodeId : NodeIdText) (caches : NodeCaches) : Navigation :=
  { s with caches := Function.update s.caches nodeId caches }

section

variable (s : Navigation)

@[simp] lemma caches_setCaches_self (nodeId : NodeIdText) (caches : NodeCaches) :
    (s.setCaches nodeId caches).caches nodeId = caches := Function.update_self ..

@[simp] lemma caches_setCaches_of_ne {nodeId other : NodeIdText}
    (caches : NodeCaches) (h : other ≠ nodeId) :
    (s.setCaches nodeId caches).caches other = s.caches other := Function.update_of_ne h ..

/-- `BaseNode_clearCache`: the index by name and the parent are not in the object that is emptied. -/
def clearCache (nodeId : NodeIdText) : Navigation :=
  s.setCaches nodeId { s.caches nodeId with _ref := fun _ _ => none, _children := none }

/-! ### The queries -/

section

variable (nodeId referenceType : NodeIdText) (isForward : Bool)

/-- `findReferences`, of the identifier of a reference type. -/
def findReferences :
    List ReferenceImpl × Navigation :=
  if s.graph.isReferenceType referenceType then
    match (s.caches nodeId)._ref referenceType isForward with
    | some references => (references, s)
    | none =>
      let references := s.graph.findReferences_no_cache nodeId referenceType isForward
      let caches := s.caches nodeId
      (references, s.setCaches nodeId { caches with _ref := fun T f =>
        if T = referenceType ∧ f = isForward then some references else caches._ref T f })
  else ([], s)

/-- `findReferencesAsObject`. -/
def findReferencesAsObject :
    List NodeIdText × Navigation :=
  let result := s.findReferences nodeId referenceType isForward
  (s.graph._asObject result.1, result.2)

end

/-- `getChildren`. -/
def getChildren (nodeId : NodeIdText) : List NodeIdText × Navigation :=
  match (s.caches nodeId)._children with
  | some children => (children, s)
  | none =>
    let children := s.graph.children tests nodeId
    (children, s.setCaches nodeId { s.caches nodeId with _children := some children })

/-- `_get_HierarchicalReference`. -/
def _get_HierarchicalReference (nodeId : NodeIdText) :
    List ReferenceImpl × Navigation :=
  match (s.caches nodeId)._childByNameMap with
  | some _childByNameMap => (_childByNameMap, s)
  | none =>
    let _childByNameMap := s.graph.hierarchicalReferences tests nodeId
    (_childByNameMap,
      s.setCaches nodeId { s.caches nodeId with _childByNameMap := some _childByNameMap })

/-- `getChildByName`: the first reference under the name must be one to a child. -/
def getChildByName (nodeId : NodeIdText) (name : String)
    (namespaceIndex : Option UInt16) : Option NodeIdText × Navigation :=
  let result := s._get_HierarchicalReference tests nodeId
  match s.graph._select_by_browse_name result.1 name namespaceIndex with
  | [] => (none, result.2)
  | reference :: _ =>
    if s.graph.isA tests .HasChild reference then
      (s.graph.resolveReferenceNode reference, result.2)
    else (none, result.2)

end

/-- `parent`. -/
def parent (s : Navigation) (nodeId : NodeIdText) : Option NodeIdText × Navigation :=
  match (s.caches nodeId)._parent with
  | some parent => (parent, s)
  | none =>
    let parent := s.graph._setup_parent_item tests nodeId
    (parent, s.setCaches nodeId { s.caches nodeId with _parent := some parent })

/-! ### Adding -/

/-- `_handle_HierarchicalReference`. -/
def _handle_HierarchicalReference (s : Navigation) (nodeId : NodeIdText)
    (reference : ReferenceImpl) : Navigation :=
  match (s.caches nodeId)._childByNameMap with
  | none => s
  | some _childByNameMap =>
    if reference.isForward ∧ s.graph.isA tests .HierarchicalReferences reference = true then
      s.setCaches nodeId
        { s.caches nodeId with _childByNameMap := some (s.graph._add _childByNameMap reference) }
    else s

/-- `BaseNode_add_backward_reference`. -/
def _add_backward_reference (s : Navigation) (nodeId : NodeIdText) (node : BaseNodeImpl)
    (reference : ReferenceImpl) : Navigation :=
  if node.hasReference reference.hash then s
  else if node.hasBackReference reference.hash then s
  else
    let s : Navigation :=
      { s with graph := (s.graph._add_backward_reference nodeId node reference).graph }
    (s._handle_HierarchicalReference tests nodeId reference).clearCache nodeId

/-- `_propagate_ref`. -/
def _propagate_ref (s : Navigation) (nodeId : NodeIdText) (reference : ReferenceImpl) : Navigation :=
  match s.graph.findReferenceType reference.referenceType with
  | none => s
  | some referenceType =>
    if _is_massively_used_reference referenceType then s
    else
      match s.graph.findNode reference.nodeId with
      | none => s
      | some relatedNode =>
        s._add_backward_reference tests reference.nodeId relatedNode (reference.backward nodeId)

/-- `getNodeVersion`. -/
def getNodeVersion (s : Navigation) (nodeId : NodeIdText) : Option NodeIdText × Navigation :=
  s.getChildByName tests nodeId "NodeVersion" (some 0)

/-- `_handle_add_reference_change_event`, which asks the first node for its version and then the second
one if the first has none. -/
def _handle_add_reference_change_event (s : Navigation) (nodeId nodeId2 : NodeIdText) : Navigation :=
  match s.graph.findNode nodeId2 with
  | none => s
  | some _ =>
    match s.getNodeVersion tests nodeId with
    | (some _, s) => s
    | (none, s) => (s.getNodeVersion tests nodeId2).2

section

variable (s : Navigation) (nodeId : NodeIdText) (reference : ReferenceImpl)

/-- `addReference`. -/
def addReference : Navigation :=
  match s.graph.findNode nodeId with
  | none => s
  | some node =>
    match node.__addReference reference with
    | .error _ => s
    | .ok node =>
      let s : Navigation := { s with graph := s.graph.setNode nodeId (some node) }
      let s := (s._handle_HierarchicalReference tests nodeId reference).clearCache nodeId
      match s.graph.findReferenceType reference.referenceType with
      | none => s
      | some _ =>
        match (s.graph._propagate_ref nodeId reference).thrown with
        | some _ => s._propagate_ref tests nodeId reference
        | none =>
          (s._propagate_ref tests nodeId reference)._handle_add_reference_change_event tests nodeId
            reference.nodeId

/-! ### Removing -/

/-- `_remove_HierarchicalReference`. -/
def _remove_HierarchicalReference : Navigation :=
  match (s.caches nodeId)._childByNameMap with
  | none => s
  | some _childByNameMap =>
    if reference.isForward ∧ s.graph.isA tests .HierarchicalReferences reference = true then
      s.setCaches nodeId
        { s.caches nodeId with _childByNameMap := some (s.graph._remove _childByNameMap reference) }
    else s

/-- `BaseNode_remove_backward_reference`, which does not empty the cache. -/
def _remove_backward_reference :
    Navigation :=
  let s := s._remove_HierarchicalReference tests nodeId reference
  { s with graph := s.graph.eraseBack nodeId reference.hash }

/-- A reference that the node declares is removed from both of its nodes. -/
def removeOwnReference :
    Navigation :=
  let s : Navigation := { s with graph := s.graph.eraseOwn nodeId reference.hash }
  let s := s._remove_backward_reference tests reference.nodeId (reference.backward nodeId)
  (s._remove_HierarchicalReference tests nodeId reference).clearCache nodeId

/-- `removeReference`. -/
def removeReference : Navigation :=
  match s.graph.findNode nodeId, s.graph.findNode reference.nodeId with
  | none, _ => s
  | some _, none => s
  | some node, some relatedNode =>
    if node.hasReference reference.hash then s.removeOwnReference tests nodeId reference
    else if node.hasBackReference reference.hash then
      if relatedNode.hasReference (reference.backward nodeId).hash then
        s.removeOwnReference tests reference.nodeId (reference.backward nodeId)
      else s
    else s

/-! ### The references are those of the operations without caches -/

end

section Graph

variable {tests}

section

variable (s : Navigation) (nodeId : NodeIdText)

@[simp] lemma graph_setCaches (caches : NodeCaches) :
    (s.setCaches nodeId caches).graph = s.graph := rfl

@[simp] lemma graph_clearCache :
    (s.clearCache nodeId).graph = s.graph := rfl

@[simp] lemma graph_handle_HierarchicalReference (reference : ReferenceImpl) :
    (s._handle_HierarchicalReference tests nodeId reference).graph = s.graph := by
  unfold _handle_HierarchicalReference
  split
  · rfl
  · split_ifs <;> rfl

end

@[simp] lemma graph_getChildByName (s : Navigation) (nodeId : NodeIdText) (name : String)
    (ns : Option UInt16) :
    (s.getChildByName tests nodeId name ns).2.graph = s.graph := by
  have hindex : (s._get_HierarchicalReference tests nodeId).2.graph = s.graph := by
    unfold _get_HierarchicalReference
    split <;> rfl
  simp only [getChildByName]
  split
  · exact hindex
  · split_ifs <;> exact hindex

@[simp] lemma graph_handle_add_reference_change_event (s : Navigation)
    (nodeId nodeId2 : NodeIdText) :
    (s._handle_add_reference_change_event tests nodeId nodeId2).graph = s.graph := by
  unfold _handle_add_reference_change_event
  split
  · rfl
  · have hfirst := @graph_getChildByName tests s nodeId "NodeVersion" (some 0)
    split
    · next hquery =>
      rw [getNodeVersion] at hquery
      rw [hquery] at hfirst
      exact hfirst
    · next t hquery =>
      rw [getNodeVersion] at hquery
      rw [hquery] at hfirst
      exact (graph_getChildByName ..).trans hfirst

lemma graph_propagate_ref (s : Navigation) (nodeId : NodeIdText) (reference : ReferenceImpl) :
    (s._propagate_ref tests nodeId reference).graph = (s.graph._propagate_ref nodeId reference).graph := by
  unfold _propagate_ref NodeGraph._propagate_ref
  cases s.graph.findReferenceType reference.referenceType with
  | none => rfl
  | some referenceType =>
    dsimp only
    split_ifs
    · rfl
    · cases s.graph.findNode reference.nodeId with
      | none => rfl
      | some relatedNode =>
        dsimp only
        unfold _add_backward_reference NodeGraph._add_backward_reference
        split_ifs
        · rfl
        · rfl
        · simp

/-- **An addition** changes the references as it does without caches. -/
theorem graph_addReference (s : Navigation) (nodeId : NodeIdText) (reference : ReferenceImpl) :
    (s.addReference tests nodeId reference).graph = (s.graph.addReference nodeId reference).graph := by
  unfold addReference NodeGraph.addReference
  cases s.graph.findNode nodeId with
  | none => rfl
  | some node =>
    dsimp only
    cases node.__addReference reference with
    | error error => rfl
    | ok node =>
      simp only [graph_clearCache, graph_handle_HierarchicalReference]
      cases (s.graph.setNode nodeId (some node)).findReferenceType reference.referenceType with
      | none => simp
      | some referenceType =>
        dsimp only
        split <;> simp [graph_propagate_ref]

@[simp] lemma graph_remove_HierarchicalReference (s : Navigation) (nodeId : NodeIdText)
    (reference : ReferenceImpl) :
    (s._remove_HierarchicalReference tests nodeId reference).graph = s.graph := by
  unfold _remove_HierarchicalReference
  split
  · rfl
  · split_ifs <;> rfl

lemma graph_removeOwnReference (s : Navigation) (nodeId : NodeIdText) (reference : ReferenceImpl) :
    (s.removeOwnReference tests nodeId reference).graph =
      s.graph.removeOwnReference nodeId reference := by
  simp [removeOwnReference, NodeGraph.removeOwnReference, _remove_backward_reference]

/-- **A removal** changes the references as it does without caches. -/
theorem graph_removeReference (s : Navigation) (nodeId : NodeIdText) (reference : ReferenceImpl) :
    (s.removeReference tests nodeId reference).graph =
      (s.graph.removeReference nodeId reference).graph := by
  unfold removeReference NodeGraph.removeReference
  cases s.graph.findNode nodeId with
  | none => rfl
  | some node =>
    cases s.graph.findNode reference.nodeId with
    | none => rfl
    | some relatedNode =>
      dsimp only
      split_ifs
      · exact graph_removeOwnReference ..
      · exact graph_removeOwnReference ..
      · rfl
      · rfl
      · rfl

end Graph

end Navigation

end NodeOpcua
