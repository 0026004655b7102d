import NodeOpcua.AddressSpace.References
import NodeOpcua.Library.Mealy

set_option autoImplicit false

/-!
# The symmetry of the references

Both nodes of a reference are to have it, each in its direction. This file says what is expected of the
operations on an address space, and when they do it.

## Main definitions

* `NodeGraph.Symmetric`.
* `NodeGraph.KeepsReferences`, `NodeGraph.ReferenceCondition`.

## Design

* A deletion deletes one node after another, and its condition speaks of each node at its turn.
-/

namespace NodeOpcua

open ReferenceImpl (backward_inj backward_referenceType backward_backward backward_nodeId)
open List (mem_append map_append mem_filter map_singleton not_mem_nil mem_cons_of_mem)

namespace NodeGraph

/-! ### The operations -/

/-- An operation on the nodes. -/
inductive ReferenceOperation
  | createNode (nodeId : NodeIdText) (browseName : BuiltIn.QualifiedName) (nodeClass : NodeClass)
      (references : List ReferenceImpl)
  | addReference (nodeId : NodeIdText) (reference : ReferenceImpl)
  | removeReference (nodeId : NodeIdText) (reference : ReferenceImpl)
  | deleteNode (nodeId : NodeIdText) (lookups : Lookups) (depth : ℕ)

/-- What an operation leaves, and what it throws. -/
def perform (s : NodeGraph) : ReferenceOperation → Call
  | .createNode nodeId browseName nodeClass references =>
    s.createNode nodeId browseName nodeClass references
  | .addReference nodeId reference => s.addReference nodeId reference
  | .removeReference nodeId reference => s.removeReference nodeId reference
  | .deleteNode nodeId lookups depth => deleteNode lookups depth s nodeId

/-- The step of a run. -/
def step (s : NodeGraph) (operation : ReferenceOperation) :
    NodeGraph × List AddressSpaceError :=
  ((s.perform operation).graph, (s.perform operation).thrown.toList)

/-! ### What is expected -/

/-- **Symmetry**: a node has a reference to another one when that one has the inverse reference, except
for the types that are massively used; and it has it once. -/
structure Symmetric (s : NodeGraph) : Prop where
  mirrored : ∀ a b referenceType, s.isMassivelyUsed referenceType = false →
    (⟨referenceType, true, b⟩ ∈ s.allReferences a ↔ ⟨referenceType, false, a⟩ ∈ s.allReferences b)
  once : ∀ a, (s.allReferences a).Nodup

/-- The references of all nodes are those of the other address space, each in the same map. -/
def SameReferences (s t : NodeGraph) : Prop :=
  ∀ nodeId, s.own nodeId = t.own nodeId ∧ s.back nodeId = t.back nodeId

/-- A reference is added or removed. -/
def ReferenceOperation.ChangesReference : ReferenceOperation → Prop
  | .addReference _ _ => True
  | .removeReference _ _ => True
  | _ => False

/-- **What is expected of an operation**: the references are symmetric, a reference that is added and
removed leaves no trace, and neither does one that is refused. -/
structure KeepsReferences (s : NodeGraph) (operation : ReferenceOperation) : Prop where
  symmetric : (s.perform operation).graph.Symmetric
  restores : ∀ nodeId reference, operation = .addReference nodeId reference →
    (s.addReference nodeId reference).thrown = none →
      ((s.addReference nodeId reference).graph.removeReference nodeId
        reference).graph.SameReferences s
  unchanged : operation.ChangesReference → (s.perform operation).thrown ≠ none →
    (s.perform operation).graph.SameReferences s

/-- The targets of the references of an operation are in the address space. -/
def TargetsExist (s : NodeGraph) : ReferenceOperation → Prop
  | .createNode nodeId _ _ references =>
    ∀ reference ∈ references, reference.nodeId = nodeId ∨ (s.findNode reference.nodeId).isSome
  | .addReference _ reference => (s.findNode reference.nodeId).isSome
  | .removeReference _ reference => (s.findNode reference.nodeId).isSome
  | .deleteNode _ _ _ => True

/-! ### The conditions -/

/-- The text of the hash is that of a reference in the map. -/
def HasHash (references : List ReferenceImpl) (hash : Bool × String) : Prop :=
  hash ∈ references.map ReferenceImpl.hash

instance (references : List ReferenceImpl) (hash : Bool × String) :
    Decidable (HasHash references hash) :=
  inferInstanceAs (Decidable (hash ∈ references.map ReferenceImpl.hash))

section

variable (s : NodeGraph) (nodeId : NodeIdText)

/-- **The condition for adding** a reference that the node does not have: its type is in the address
space, and no reference that the target has in a map where the new one is looked up has its hash. -/
def CanAdd (reference : ReferenceImpl) : Prop :=
  ¬ HasHash (s.allReferences nodeId) reference.hash →
    s.isReferenceType reference.referenceType = true ∧
    ¬ HasHash (s.back reference.nodeId) (reference.backward nodeId).hash ∧
    (s.isMassivelyUsed reference.referenceType = false →
      ¬ HasHash (s.own reference.nodeId) (reference.backward nodeId).hash)

/-- **The condition for removing** a reference: it is the one under its hash, and when the node declares
it, the target has no back reference under its hash if the type is massively used, and the node does
not declare it twice, as source and as target. -/
def CanRemove (reference : ReferenceImpl) : Prop :=
  (HasHash (s.allReferences nodeId) reference.hash → reference ∈ s.allReferences nodeId) ∧
  (reference ∈ s.own nodeId →
    if s.isMassivelyUsed reference.referenceType then
      ¬ HasHash (s.back reference.nodeId) (reference.backward nodeId).hash
    else reference.nodeId = nodeId → reference.backward nodeId ∉ s.own nodeId)

/-- **The condition for creating** a node whose references are told apart: when it is registered, the
types of its references are in the address space, and no other reference that a target has is under
the hash of the one that is propagated to it. -/
def CanCreate (browseName : BuiltIn.QualifiedName)
    (nodeClass : NodeClass) (references : List ReferenceImpl) : Prop :=
  let registered :=
    s.setNode nodeId (some { browseName, nodeClass, _referenceIdx := references })
  s.findNode nodeId = none → ∀ reference ∈ references,
    registered.isReferenceType reference.referenceType = true ∧
    (registered.isMassivelyUsed reference.referenceType = false →
      ∀ other ∈ registered.allReferences reference.nodeId,
        other.hash = (reference.backward nodeId).hash → other = reference.backward nodeId)

end

/-- A deletion removes the reference from both nodes: its type is not hierarchical, or it is one to a
parent. -/
def Detachable (lookups : Lookups) (reference : ReferenceImpl) : Prop :=
  lookups.checkHasSubtype .NonHierarchicalReferences reference.referenceType = true ∨
    reference.isForward = false ∧
      lookups.checkHasSubtype .HierarchicalReferences reference.referenceType = true

/-- The deletion of the node is refused for its class, or for a reference to itself. -/
def DeletionRefused (s : NodeGraph) (lookups : Lookups) (nodeId : NodeIdText) : Prop :=
  (∃ node, s.findNode nodeId = some node ∧
    (node.nodeClass = .ReferenceType ∨ node.nodeClass = .DataType)) ∨
  ∃ reference ∈ s.own nodeId, reference.nodeId = nodeId ∧
    (s.isMassivelyUsed reference.referenceType = true ∨
      ¬ Detachable lookups reference ∧ ¬ Detachable lookups (reference.backward nodeId))

/-- **The condition for the deletion of one node**, whose components, properties and organized nodes are
deleted already. References that are left are to be its own: no other node declares one as the
target. -/
structure CanDetach (s : NodeGraph) (lookups : Lookups) (nodeId : NodeIdText) : Prop where
  /-- A reference that is not propagated has the hash of no reference that the target has. -/
  clash : ∀ reference ∈ s.own nodeId, s.isMassivelyUsed reference.referenceType = true →
    ∀ other ∈ s.allReferences reference.nodeId,
      other.hash = (reference.backward nodeId).hash → other = reference.backward nodeId
  /-- A reference of the node to itself that is removed is not declared twice. -/
  twice : ∀ reference ∈ s.own nodeId, s.isMassivelyUsed reference.referenceType = false →
    reference.nodeId = nodeId → reference.backward nodeId ∈ s.own nodeId →
      ¬ Detachable lookups reference
  /-- What another node declares is removed. -/
  declared : (∃ node, s.findNode nodeId = some node ∧ node.nodeClass ≠ .ReferenceType ∧
    node.nodeClass ≠ .DataType) → ∀ reference ∈ s.back nodeId, reference.nodeId ≠ nodeId →
      Detachable lookups reference
  /-- What a node that stays has declared is removed from both nodes, or from none. -/
  kept : s.DeletionRefused lookups nodeId → ∀ reference ∈ s.own nodeId,
    s.isMassivelyUsed reference.referenceType = false → reference.nodeId ≠ nodeId →
      Detachable lookups reference

/-- The calls of a loop meet a condition, each of them at its turn. -/
def CallsMeet {α : Type} (f : NodeGraph → α → Call) (P : NodeGraph → α → Prop) :
    List α → NodeGraph → Prop
  | [], _ => True
  | a :: as, s => P s a ∧ ((f s a).thrown = none → CallsMeet f P as (f s a).graph)

/-- **The condition for a deletion**: the children meet it at their turns, and then the node can be
detached. -/
def CanDelete (lookups : Lookups) : ℕ → NodeGraph → NodeIdText → Prop
  | 0, _, _ => True
  | depth + 1, s, nodeId =>
    let deletions := callAll (deleteNodePointedByReference (deleteNode lookups depth))
      (s.deletedChildren lookups nodeId) s
    s.parentMissing lookups nodeId = false →
      CallsMeet (deleteNodePointedByReference (deleteNode lookups depth))
        (fun t reference => CanDelete lookups depth t reference.nodeId)
        (s.deletedChildren lookups nodeId) s ∧
      (deletions.thrown = none → deletions.graph.parentMissing lookups nodeId = false →
        deletions.graph.CanDetach lookups nodeId)

/-- **When an operation does what is expected.** -/
def ReferenceCondition (s : NodeGraph) : ReferenceOperation → Prop
  | .createNode nodeId browseName nodeClass references =>
    s.CanCreate nodeId browseName nodeClass references
  | .addReference nodeId reference => s.CanAdd nodeId reference
  | .removeReference nodeId reference => s.CanRemove nodeId reference
  | .deleteNode nodeId lookups depth => CanDelete lookups depth s nodeId

/-! ### The invariant -/

/-- **The invariant**, except for the references that are not propagated yet: of the two nodes of a
reference one declares it, and the other one has it back. A node may declare a reference to itself
twice. -/
structure ConsistentBut (s : NodeGraph) (pending : NodeIdText → ReferenceImpl → Prop) : Prop where
  mirrored : ∀ a, ∀ q ∈ s.own a, s.isMassivelyUsed q.referenceType = false → q.nodeId ≠ a →
    ¬ pending a q → q.backward a ∈ s.back q.nodeId
  mirroredSelf : ∀ a, ∀ q ∈ s.own a, s.isMassivelyUsed q.referenceType = false → q.nodeId = a →
    ¬ pending a q → q.backward a ∈ s.allReferences a
  stored : ∀ a, ∀ q ∈ s.back a, s.isMassivelyUsed q.referenceType = false ∧
    q.backward a ∈ s.own q.nodeId
  distinct : ∀ a, ((s.allReferences a).map ReferenceImpl.hash).Nodup
  typed : ∀ a, ∀ q ∈ s.allReferences a, s.isReferenceType q.referenceType = true

/-- Every reference is propagated. -/
def Consistent (s : NodeGraph) : Prop := s.ConsistentBut fun _ _ => False

variable {s : NodeGraph} {a : NodeIdText} {q : ReferenceImpl}

lemma mem_allReferences :
    q ∈ s.allReferences a ↔ q ∈ s.own a ∨ q ∈ s.back a := mem_append

lemma mem_of_own (h : q ∈ s.own a) : q ∈ s.allReferences a := mem_allReferences.mpr (Or.inl h)

lemma mem_of_back (h : q ∈ s.back a) : q ∈ s.allReferences a := mem_allReferences.mpr (Or.inr h)

variable {hash : Bool × String}

lemma hasHash_allReferences :
    HasHash (s.allReferences a) hash ↔ HasHash (s.own a) hash ∨ HasHash (s.back a) hash := by
  simp only [HasHash, allReferences, map_append, mem_append]

variable {references : List ReferenceImpl}

lemma hasHash_of_mem (h : q ∈ references) :
    HasHash references q.hash := List.mem_map_of_mem h

lemma hasHash_iff :
    HasHash references hash ↔ ∃ q ∈ references, q.hash = hash := List.mem_map

namespace ConsistentBut

variable {s : NodeGraph} {pending : NodeIdText → ReferenceImpl → Prop}

lemma hash_inj (h : s.ConsistentBut pending) {a : NodeIdText} {q r : ReferenceImpl}
    (hq : q ∈ s.allReferences a) (hr : r ∈ s.allReferences a) (hhash : q.hash = r.hash) : q = r :=
  List.inj_on_of_nodup_map (h.distinct a) hq hr hhash

lemma not_mem_back (h : s.ConsistentBut pending) {a : NodeIdText} {q : ReferenceImpl}
    (hq : q ∈ s.own a) : ¬ HasHash (s.back a) q.hash := by
  intro hback
  have hdist := h.distinct a
  rw [allReferences, map_append] at hdist
  exact List.disjoint_of_nodup_append hdist (hasHash_of_mem hq) hback

end ConsistentBut

namespace Consistent

variable {s : NodeGraph}

lemma mirror_mem (h : s.Consistent) {a : NodeIdText} {q : ReferenceImpl} (hq : q ∈ s.allReferences a)
    (hused : s.isMassivelyUsed q.referenceType = false) : q.backward a ∈ s.allReferences q.nodeId := by
  rcases mem_allReferences.mp hq with hq | hq
  · by_cases hself : q.nodeId = a
    · rw [hself]
      exact h.mirroredSelf a q hq hused hself not_false
    · exact mem_of_back (h.mirrored a q hq hused hself not_false)
  · exact mem_of_own ((h.stored a q hq).2)

/-- **The invariant is symmetry.** -/
theorem symmetric (h : s.Consistent) : s.Symmetric where
  mirrored a b referenceType hused := by
    constructor
    · exact fun hab => h.mirror_mem hab hused
    · exact fun hba => h.mirror_mem hba hused
  once a := List.Nodup.of_map _ (h.distinct a)

end Consistent

/-! ### Removing -/

/-- The references of the nodes are among those they had before. -/
structure Shrinks (s t : NodeGraph) : Prop where
  attributes : t.attributes = s.attributes
  own : ∀ c, t.own c ⊆ s.own c
  back : ∀ c, t.back c ⊆ s.back c

lemma Shrinks.refl (s : NodeGraph) : s.Shrinks s :=
  ⟨rfl, fun _ => List.Subset.refl _, fun _ => List.Subset.refl _⟩

lemma Shrinks.trans {s t u : NodeGraph} (hst : s.Shrinks t) (htu : t.Shrinks u) : s.Shrinks u :=
  ⟨htu.attributes.trans hst.attributes, fun c _ hq => hst.own c (htu.own c hq),
    fun c _ hq => hst.back c (htu.back c hq)⟩

variable {s t : NodeGraph}

lemma Shrinks.allReferences (h : s.Shrinks t) {c : NodeIdText}
    (hq : q ∈ t.allReferences c) : q ∈ s.allReferences c := by
  rw [mem_allReferences] at hq ⊢
  exact hq.imp (fun hq => h.own c hq) fun hq => h.back c hq

lemma isMassivelyUsed_congr (h : t.attributes = s.attributes) (T : NodeIdText) :
    t.isMassivelyUsed T = s.isMassivelyUsed T := by
  rw [isMassivelyUsed_eq, isMassivelyUsed_eq, h]

lemma isReferenceType_congr (h : t.attributes = s.attributes) (T : NodeIdText) :
    t.isReferenceType T = s.isReferenceType T := by
  rw [isReferenceType_eq, isReferenceType_eq, h]

lemma isSome_congr (h : t.attributes = s.attributes) (c : NodeIdText) :
    (t.findNode c).isSome = (s.findNode c).isSome := by
  rw [← attributes_isSome, h, attributes_isSome]

lemma Shrinks.isMassivelyUsed (h : s.Shrinks t) (T : NodeIdText) :
    t.isMassivelyUsed T = s.isMassivelyUsed T := isMassivelyUsed_congr h.attributes T

lemma Shrinks.isReferenceType (h : s.Shrinks t) (T : NodeIdText) :
    t.isReferenceType T = s.isReferenceType T := isReferenceType_congr h.attributes T

lemma removeOwnReference_shrinks (s : NodeGraph) (a : NodeIdText) (r : ReferenceImpl) :
    s.Shrinks (s.removeOwnReference a r) := by
  refine ⟨attributes_removeOwnReference s a r, fun c => ?_, fun c => ?_⟩
  · rw [own_removeOwnReference]
    split_ifs with hc
    · rw [hc]; exact List.filter_subset_self _
    · exact List.Subset.refl _
  · rw [back_removeOwnReference]
    split_ifs with hc
    · rw [hc]; exact List.filter_subset_self _
    · exact List.Subset.refl _

section RemoveOwn

variable {s : NodeGraph} {a : NodeIdText} {r : ReferenceImpl}

/-- The bound that the condition for removing puts on a reference that the node declares. -/
def DeclaredOnce (s : NodeGraph) (a : NodeIdText) (r : ReferenceImpl) : Prop :=
  if s.isMassivelyUsed r.referenceType then ¬ HasHash (s.back r.nodeId) (r.backward a).hash
  else r.nodeId = a → r.backward a ∉ s.own a

section

variable (h : s.Consistent) (hr : r ∈ s.own a)
include h hr

lemma mem_own_removeOwnReference {c : NodeIdText} {q : ReferenceImpl} :
    q ∈ (s.removeOwnReference a r).own c ↔ q ∈ s.own c ∧ ¬ (c = a ∧ q = r) := by
  rw [own_removeOwnReference]
  split_ifs with hc
  · rw [mem_filter, decide_eq_true_eq, hc]
    refine and_congr_right fun hq => ?_
    constructor
    · rintro hne ⟨-, rfl⟩
      exact hne rfl
    · intro hne heq
      exact hne ⟨rfl, h.hash_inj (mem_of_own hq)
        (mem_of_own hr) heq⟩
  · simp [hc]

lemma mem_back_removeOwnReference (honce : s.DeclaredOnce a r)
    {c : NodeIdText} {q : ReferenceImpl} :
    q ∈ (s.removeOwnReference a r).back c ↔
      q ∈ s.back c ∧ ¬ (c = r.nodeId ∧ q = r.backward a) := by
  rw [back_removeOwnReference]
  split_ifs with hc
  · rw [mem_filter, decide_eq_true_eq, hc]
    refine and_congr_right fun hq => ?_
    constructor
    · rintro hne ⟨-, rfl⟩
      exact hne rfl
    · intro hne heq
      refine hne ⟨rfl, ?_⟩
      unfold DeclaredOnce at honce
      split_ifs at honce with hused
      · exact absurd (hasHash_iff.mpr ⟨q, hq, heq⟩) honce
      · -- the other node has the reference back
        have hmirr : r.backward a ∈ s.allReferences r.nodeId :=
          h.mirror_mem (mem_of_own hr) (Bool.not_eq_true _ ▸ hused)
        exact h.hash_inj (mem_of_back hq) hmirr heq
  · simp [hc]

/-- **A reference is removed** from both of its nodes. -/
lemma removeOwnReference_consistent
    (honce : s.DeclaredOnce a r) : (s.removeOwnReference a r).Consistent := by
  have hshrinks := s.removeOwnReference_shrinks a r
  refine ⟨fun c q hq hused hself _ => ?_, fun c q hq hused hself _ => ?_, fun c q hq => ?_,
    fun c => ?_, fun c q hq => ?_⟩
  · rw [hshrinks.isMassivelyUsed] at hused
    obtain ⟨hq, hne⟩ := (mem_own_removeOwnReference h hr).mp hq
    refine (mem_back_removeOwnReference h hr honce).mpr ⟨h.mirrored c q hq hused hself not_false, ?_⟩
    rintro ⟨hnodeId, heq⟩
    exact hne (backward_inj hnodeId heq)
  · rw [hshrinks.isMassivelyUsed] at hused
    obtain ⟨hown, hne⟩ := (mem_own_removeOwnReference h hr).mp hq
    rw [mem_allReferences, mem_own_removeOwnReference h hr, mem_back_removeOwnReference h hr honce]
    refine (mem_allReferences.mp (h.mirroredSelf c q hown hused hself not_false)).imp
      (fun hmirr => ⟨hmirr, ?_⟩) fun hmirr => ⟨hmirr, ?_⟩
    · -- the node would declare the reference twice
      rintro ⟨rfl, rfl⟩
      unfold DeclaredOnce at honce
      rw [backward_referenceType, hused, if_neg Bool.false_ne_true] at honce
      have htwice : (q.backward c).backward c = q := by
        ext <;> simp [ReferenceImpl.backward, hself]
      rw [htwice] at honce
      exact honce rfl hown
    · rintro ⟨hnodeId, heq⟩
      exact hne (backward_inj (hself.trans hnodeId) heq)
  · obtain ⟨hq, hne⟩ := (mem_back_removeOwnReference h hr honce).mp hq
    obtain ⟨hused, hown⟩ := h.stored c q hq
    refine ⟨(hshrinks.isMassivelyUsed _).trans hused,
      (mem_own_removeOwnReference h hr).mpr ⟨hown, ?_⟩⟩
    rintro ⟨rfl, rfl⟩
    exact hne ⟨rfl, (q.backward_backward c).symm⟩
  · refine (h.distinct c).sublist (List.Sublist.map _ (List.Sublist.append ?_ ?_))
    · rw [own_removeOwnReference]
      split_ifs with hc
      · rw [hc]; exact List.filter_sublist
      · exact List.Sublist.refl _
    · rw [back_removeOwnReference]
      split_ifs with hc
      · rw [hc]; exact List.filter_sublist
      · exact List.Sublist.refl _
  · rw [hshrinks.isReferenceType]
    exact h.typed c q (hshrinks.allReferences hq)

end

end RemoveOwn

/-- What a removal leaves. -/
structure Removed (s : NodeGraph) (a : NodeIdText) (r : ReferenceImpl) (call : Call) : Prop where
  consistent : call.graph.Consistent
  shrinks : s.Shrinks call.graph
  thrown : (s.findNode a).isSome → call.thrown = none
  removed : (s.findNode r.nodeId).isSome → r ∉ call.graph.allReferences a

variable {r : ReferenceImpl}

/-- **A removal** under its condition. -/
theorem removeReference_removed (h : s.Consistent)
    (hrm : s.CanRemove a r) : Removed s a r (s.removeReference a r) := by
  obtain ⟨hmem, honce⟩ := hrm
  by_cases hhash : HasHash (s.allReferences a) r.hash
  · rcases mem_allReferences.mp (hmem hhash) with hr | hr
    · cases hrel : s.findNode r.nodeId with
      | none =>
        have hcall : (s.removeReference a r).graph = s := by
          unfold removeReference
          rw [hrel]
          cases s.findNode a <;> rfl
        refine ⟨by rwa [hcall], by rw [hcall]; exact Shrinks.refl s, fun hnode => ?_, fun hsome => ?_⟩
        · obtain ⟨node, hnode⟩ := Option.isSome_iff_exists.mp hnode
          unfold removeReference
          rw [hrel, hnode]
        · rw [hrel] at hsome
          cases hsome
      | some relatedNode =>
        rw [removeReference_of_own (hasHash_of_mem hr) hrel]
        refine ⟨removeOwnReference_consistent h hr (honce hr), s.removeOwnReference_shrinks a r,
          fun _ => rfl, fun _ hleft => ?_⟩
        rcases mem_allReferences.mp hleft with hleft | hleft
        · exact ((mem_own_removeOwnReference h hr).mp hleft).2 ⟨rfl, rfl⟩
        · exact h.not_mem_back hr (hasHash_of_mem ((s.removeOwnReference_shrinks a r).back a hleft))
    · -- the other node declares the reference
      obtain ⟨hused, hother⟩ := h.stored a r hr
      have hown : r ∉ s.own a := fun hown => h.not_mem_back hown (hasHash_of_mem hr)
      have hnot : ¬ HasHash (s.own a) r.hash := by
        intro hown'
        obtain ⟨q, hq, heq⟩ := hasHash_iff.mp hown'
        have hsame := h.hash_inj (mem_of_own hq)
          (mem_of_back hr) heq
        exact hown (hsame ▸ hq)
      have hdecl : s.DeclaredOnce r.nodeId (r.backward a) := by
        unfold DeclaredOnce
        rw [backward_referenceType, hused, if_neg Bool.false_ne_true,
          backward_backward]
        intro hself
        rw [← hself]
        exact hown
      rw [removeReference_of_back hnot (hasHash_of_mem hr) (hasHash_of_mem hother)]
      refine ⟨removeOwnReference_consistent h hother hdecl,
        s.removeOwnReference_shrinks _ _, fun _ => rfl, fun _ hleft => ?_⟩
      rcases mem_allReferences.mp hleft with hleft | hleft
      · exact hown ((s.removeOwnReference_shrinks _ _).own a hleft)
      · exact ((mem_back_removeOwnReference h hother hdecl).mp hleft).2
          ⟨rfl, (r.backward_backward a).symm⟩
  · have hcall := removeReference_of_not_mem hhash
    refine ⟨by rwa [hcall], by rw [hcall]; exact Shrinks.refl s, fun hnode => ?_, fun _ hleft => ?_⟩
    · obtain ⟨node, hnode⟩ := Option.isSome_iff_exists.mp hnode
      rw [hasHash_allReferences, not_or] at hhash
      unfold removeReference
      rw [hnode]
      cases hrel : s.findNode r.nodeId with
      | none => rfl
      | some relatedNode =>
        dsimp only
        rw [if_neg (mt (hasReference_iff hnode _).mp hhash.1),
          if_neg (mt (hasBackReference_iff hnode _).mp hhash.2)]
    · rw [hcall] at hleft
      exact hhash (hasHash_of_mem hleft)

/-! ### Propagating -/

/-- A back reference is appended to those of a node. -/
structure Appended (s t : NodeGraph) (nodeId : NodeIdText) (reference : ReferenceImpl) : Prop where
  attributes : t.attributes = s.attributes
  own : ∀ c, t.own c = s.own c
  back : ∀ c, t.back c = if c = nodeId then s.back c ++ [reference] else s.back c

lemma Appended.distinct {b : NodeIdText}
    (h : s.Appended t b r) (hfresh : ¬ HasHash (s.allReferences b) r.hash)
    (hdist : ∀ c, ((s.allReferences c).map ReferenceImpl.hash).Nodup) (c : NodeIdText) :
    ((t.allReferences c).map ReferenceImpl.hash).Nodup := by
  rw [allReferences, h.own, h.back]
  split_ifs with hc
  · subst hc
    rw [← List.append_assoc, map_append, map_singleton]
    exact List.nodup_append.mpr ⟨hdist _, List.nodup_singleton _, fun x hx y hy => by
      rintro rfl
      exact hfresh (List.mem_singleton.mp hy ▸ hx)⟩
  · exact hdist c

lemma appended_setNode {b : NodeIdText} {node : BaseNodeImpl}
    (hnode : s.findNode b = some node) (r : ReferenceImpl) :
    s.Appended (s.setNode b (some { node with
      _back_referenceIdx := node._back_referenceIdx ++ [r] })) b r := by
  refine ⟨attributes_setNode hnode rfl rfl, fun c => ?_, fun c => ?_⟩
  · rw [own_setNode]
    split_ifs with hc
    · rw [hc, own_eq hnode]; rfl
    · rfl
  · rw [back_setNode]
    split_ifs with hc
    · rw [hc, back_eq hnode]; rfl
    · rfl

/-- **What a propagation does** when the target has no back reference under the hash: nothing for a type
that is massively used, or when the target declares the reference; else the target has it back. -/
lemma _propagate_ref_cases (htype : s.isReferenceType r.referenceType = true)
    (htarget : s.isMassivelyUsed r.referenceType = false → (s.findNode r.nodeId).isSome)
    (hback : s.isMassivelyUsed r.referenceType = false →
      ¬ HasHash (s.back r.nodeId) (r.backward a).hash) :
    (s._propagate_ref a r = ⟨s, none⟩ ∧ (s.isMassivelyUsed r.referenceType = false →
      HasHash (s.own r.nodeId) (r.backward a).hash)) ∨
    ∃ t, s._propagate_ref a r = ⟨t, none⟩ ∧ s.isMassivelyUsed r.referenceType = false ∧
      ¬ HasHash (s.own r.nodeId) (r.backward a).hash ∧ s.Appended t r.nodeId (r.backward a) := by
  obtain ⟨referenceType, hfound⟩ := Option.isSome_iff_exists.mp htype
  have hused : s.isMassivelyUsed r.referenceType = _is_massively_used_reference referenceType := by
    simp only [isMassivelyUsed, hfound, Option.any_some]
  rw [hused] at htarget hback ⊢
  unfold _propagate_ref
  rw [hfound]
  dsimp only
  split_ifs with hmass
  · exact Or.inl ⟨rfl, fun hnot => absurd (hmass.symm.trans hnot) (by decide)⟩
  · rw [Bool.not_eq_true] at hmass
    obtain ⟨relatedNode, hrel⟩ := Option.isSome_iff_exists.mp (htarget hmass)
    rw [hrel]
    simp only [_add_backward_reference]
    split_ifs with hown hhas
    · exact Or.inl ⟨rfl, fun _ => (hasReference_iff hrel _).mp hown⟩
    · exact absurd ((hasBackReference_iff hrel _).mp hhas) (hback hmass)
    · exact Or.inr ⟨_, rfl, hmass, mt (hasReference_iff hrel _).mpr hown,
        appended_setNode hrel _⟩

/-- **A reference is propagated**: it is no longer pending.

**Proof sketch.** The target has the reference back, or it is the node itself and declares it. -/
lemma ConsistentBut.propagate {pending : NodeIdText → ReferenceImpl → Prop}
    (h : s.ConsistentBut pending) (hr : r ∈ s.own a)
    (htarget : s.isMassivelyUsed r.referenceType = false → (s.findNode r.nodeId).isSome)
    (hback : s.isMassivelyUsed r.referenceType = false →
      ¬ HasHash (s.back r.nodeId) (r.backward a).hash)
    (hown : s.isMassivelyUsed r.referenceType = false →
      HasHash (s.own r.nodeId) (r.backward a).hash → r.nodeId = a ∧ r.backward a ∈ s.own a) :
    (s._propagate_ref a r).thrown = none ∧
      (s._propagate_ref a r).graph.ConsistentBut fun c q => pending c q ∧ ¬ (c = a ∧ q = r) := by
  have htype := h.typed a r (mem_of_own hr)
  rcases _propagate_ref_cases htype htarget hback with
    ⟨hcall, hcase⟩ | ⟨t, hcall, hused, hnot, happ⟩
  · rw [hcall]
    refine ⟨rfl, fun c q hq hused hself hpend => ?_, fun c q hq hused hself hpend => ?_,
      h.stored, h.distinct, h.typed⟩
    · refine h.mirrored c q hq hused hself fun hp => hpend ⟨hp, ?_⟩
      rintro ⟨rfl, rfl⟩
      exact hself (hown hused (hcase hused)).1
    · by_cases hsame : c = a ∧ q = r
      · obtain ⟨rfl, rfl⟩ := hsame
        exact mem_of_own ((hown hused (hcase hused)).2)
      · exact h.mirroredSelf c q hq hused hself fun hp => hpend ⟨hp, hsame⟩
  · rw [hcall]
    have hmass := isMassivelyUsed_congr happ.attributes
    have hmem : ∀ c q, q ∈ t.back c ↔ q ∈ s.back c ∨ c = r.nodeId ∧ q = r.backward a := by
      intro c q
      rw [happ.back]
      split_ifs with hc
      · simp [hc]
      · simp [hc]
    refine ⟨rfl, fun c q hq hused hself hpend => ?_, fun c q hq hused hself hpend => ?_,
      fun c q hq => ?_, fun c => ?_, fun c q hq => ?_⟩
    · rw [happ.own] at hq
      rw [hmass] at hused
      rw [hmem]
      by_cases hsame : c = a ∧ q = r
      · obtain ⟨rfl, rfl⟩ := hsame
        exact Or.inr ⟨rfl, rfl⟩
      · exact Or.inl (h.mirrored c q hq hused hself fun hp => hpend ⟨hp, hsame⟩)
    · rw [happ.own] at hq
      rw [hmass] at hused
      rw [mem_allReferences, happ.own, hmem]
      by_cases hsame : c = a ∧ q = r
      · obtain ⟨rfl, rfl⟩ := hsame
        exact Or.inr (Or.inr ⟨hself.symm, rfl⟩)
      · exact (mem_allReferences.mp (h.mirroredSelf c q hq hused hself
          fun hp => hpend ⟨hp, hsame⟩)).imp_right Or.inl
    · rw [hmass, happ.own]
      rcases (hmem c q).mp hq with hq | ⟨rfl, rfl⟩
      · exact h.stored c q hq
      · rw [backward_backward]
        exact ⟨hused, hr⟩
    · exact happ.distinct (mt hasHash_allReferences.mp (not_or.mpr ⟨hnot, hback hused⟩))
        h.distinct c
    · rw [isReferenceType_congr happ.attributes]
      rw [mem_allReferences, happ.own, hmem] at hq
      rcases hq with hq | hq | ⟨rfl, rfl⟩
      · exact h.typed c q (mem_of_own hq)
      · exact h.typed c q (mem_of_back hq)
      · exact htype

lemma ConsistentBut.mono {pending pending' : NodeIdText → ReferenceImpl → Prop}
    (h : s.ConsistentBut pending) (himp : ∀ c q, pending c q → pending' c q) :
    s.ConsistentBut pending' :=
  ⟨fun c q hq hused hself hnot => h.mirrored c q hq hused hself (mt (himp c q) hnot),
    fun c q hq hused hself hnot => h.mirroredSelf c q hq hused hself (mt (himp c q) hnot),
    h.stored, h.distinct, h.typed⟩

/-! ### Adding -/

lemma filter_hash_of_not_hasHash
    (h : ¬ HasHash references hash) : (references.filter fun q => q.hash ≠ hash) = references := by
  rw [List.filter_eq_self]
  intro q hq
  rw [decide_eq_true_eq]
  rintro rfl
  exact h (hasHash_of_mem hq)

lemma filter_hash_append (h : ¬ HasHash references q.hash) :
    ((references ++ [q]).filter fun p => p.hash ≠ q.hash) = references := by
  rw [List.filter_append, filter_hash_of_not_hasHash h]
  simp

/-- A node declares one more reference. -/
structure Declared (s t : NodeGraph) (nodeId : NodeIdText) (reference : ReferenceImpl) : Prop where
  attributes : t.attributes = s.attributes
  own : ∀ c, t.own c = if c = nodeId then s.own c ++ [reference] else s.own c
  back : ∀ c, t.back c = s.back c

lemma Declared.distinct (h : s.Declared t a r) (hfresh : ¬ HasHash (s.allReferences a) r.hash)
    (hdist : ∀ c, ((s.allReferences c).map ReferenceImpl.hash).Nodup) (c : NodeIdText) :
    ((t.allReferences c).map ReferenceImpl.hash).Nodup := by
  rw [allReferences, h.own, h.back]
  split_ifs with hc
  · subst hc
    rw [List.append_assoc, List.singleton_append, (List.Perm.map _ List.perm_middle).nodup_iff,
      List.map_cons]
    exact List.nodup_cons.mpr ⟨hfresh, hdist c⟩
  · exact hdist c

/-- What `__addReference` does to the node that declares the reference. -/
lemma addReference_eq_ok {node node' : BaseNodeImpl}
    (hnode : s.findNode a = some node) (h : node.__addReference r = .ok node') :
    ¬ HasHash (s.allReferences a) r.hash ∧ s.Declared (s.setNode a (some node')) a r := by
  unfold BaseNodeImpl.__addReference at h
  split_ifs at h with hback hown
  obtain rfl := Except.ok.inj h
  refine ⟨?_, attributes_setNode hnode rfl rfl, fun c => ?_, fun c => ?_⟩
  · rw [hasHash_allReferences, not_or]
    exact ⟨mt (hasReference_iff hnode _).mpr hown, mt (hasBackReference_iff hnode _).mpr hback⟩
  · rw [own_setNode]
    split_ifs with hc
    · rw [hc, own_eq hnode]; rfl
    · rfl
  · rw [back_setNode]
    split_ifs with hc
    · rw [hc, back_eq hnode]; rfl
    · rfl

/-- **What `addReference` does**: it refuses a hash that the node has, and declares the reference
otherwise. -/
lemma addReference_cases (s : NodeGraph) (a : NodeIdText) (r : ReferenceImpl) :
    ((s.addReference a r).thrown ≠ none ∧ (s.addReference a r).graph = s) ∨
      ¬ HasHash (s.allReferences a) r.hash ∧ ∃ t, s.Declared t a r ∧
        (s.isReferenceType r.referenceType = true →
          s.addReference a r = t._propagate_ref a r) := by
  unfold addReference
  cases hnode : s.findNode a with
  | none => exact Or.inl ⟨nofun, rfl⟩
  | some node =>
    dsimp only
    cases hadd : node.__addReference r with
    | error error => exact Or.inl ⟨nofun, rfl⟩
    | ok node' =>
      obtain ⟨hfresh, hdecl⟩ := addReference_eq_ok hnode hadd
      refine Or.inr ⟨hfresh, _, hdecl, fun htype => ?_⟩
      rw [← isReferenceType_congr hdecl.attributes] at htype
      obtain ⟨referenceType, hfound⟩ := Option.isSome_iff_exists.mp htype
      dsimp only
      rw [hfound]

lemma Consistent.declared (h : s.Consistent) (hfresh : ¬ HasHash (s.allReferences a) r.hash)
    (htype : s.isReferenceType r.referenceType = true) (hdecl : s.Declared t a r) :
    t.ConsistentBut fun c q => c = a ∧ q = r := by
  have hmass := isMassivelyUsed_congr hdecl.attributes
  have hmem : ∀ c q, q ∈ t.own c ↔ q ∈ s.own c ∨ c = a ∧ q = r := by
    intro c q
    rw [hdecl.own]
    split_ifs with hc
    · simp [hc]
    · simp [hc]
  refine ⟨fun c q hq hused hself hnot => ?_, fun c q hq hused hself hnot => ?_, fun c q hq => ?_,
    fun c => ?_, fun c q hq => ?_⟩
  · rw [hmass] at hused
    rw [hdecl.back]
    exact h.mirrored c q (((hmem c q).mp hq).resolve_right hnot) hused hself not_false
  · rw [hmass] at hused
    rw [mem_allReferences, hmem, hdecl.back]
    exact (mem_allReferences.mp (h.mirroredSelf c q (((hmem c q).mp hq).resolve_right hnot) hused
      hself not_false)).imp_left Or.inl
  · rw [hdecl.back] at hq
    rw [hmass, hmem]
    exact (h.stored c q hq).imp_right Or.inl
  · exact hdecl.distinct hfresh h.distinct c
  · rw [isReferenceType_congr hdecl.attributes]
    rw [mem_allReferences, hmem, hdecl.back] at hq
    rcases hq with (hq | ⟨rfl, rfl⟩) | hq
    · exact h.typed c q (mem_of_own hq)
    · exact htype
    · exact h.typed c q (mem_of_back hq)

/-- **What an addition leaves**, when it is not refused. -/
structure Added (s : NodeGraph) (a : NodeIdText) (r : ReferenceImpl) (call : Call) : Prop where
  thrown : call.thrown = none
  consistent : call.graph.Consistent
  restores : (call.graph.removeReference a r).graph.SameReferences s

/-- **An addition** under its condition.

**Proof sketch.** The node declares the reference, and then it is propagated. The removal finds it
where the addition has put it, in each of the two maps. -/
theorem addReference_added (h : s.Consistent)
    (hadd : s.CanAdd a r) (htarget : (s.findNode r.nodeId).isSome) :
    ((s.addReference a r).thrown ≠ none ∧ (s.addReference a r).graph = s) ∨
      Added s a r (s.addReference a r) := by
  rcases s.addReference_cases a r with href | ⟨hfresh, t, hdecl, hcall⟩
  · exact Or.inl href
  · right
    obtain ⟨htype, hback, hown⟩ := hadd hfresh
    rw [hcall htype]
    have hpend := h.declared hfresh htype hdecl
    have hmass := isMassivelyUsed_congr hdecl.attributes r.referenceType
    have htargetT : (t.findNode r.nodeId).isSome := by
      rw [isSome_congr hdecl.attributes]
      exact htarget
    have hr : r ∈ t.own a := by
      rw [hdecl.own, if_pos rfl]
      simp
    have hbackT : ¬ HasHash (t.back r.nodeId) (r.backward a).hash := by rwa [hdecl.back]
    have hownT : t.isMassivelyUsed r.referenceType = false →
        ¬ HasHash (t.own r.nodeId) (r.backward a).hash := by
      intro hused
      rw [hdecl.own]
      split_ifs with hself
      · rw [HasHash, map_append, mem_append, not_or, map_singleton,
          List.mem_singleton]
        exact ⟨hown (hmass.symm.trans hused), r.hash_backward_ne a⟩
      · exact hown (hmass.symm.trans hused)
    obtain ⟨hthrow, hcons⟩ := hpend.propagate hr (fun _ => htargetT) (fun _ => hbackT)
      fun hused hhas => absurd hhas (hownT hused)
    refine ⟨hthrow, hcons.mono fun c q hq => hq.2 hq.1, ?_⟩
    -- the removal deletes what was appended
    have hownS : ¬ HasHash (s.own a) r.hash := fun hhas =>
      hfresh (hasHash_allReferences.mpr (Or.inl hhas))
    have hrest : ∀ u : NodeGraph, (∀ c, u.own c = t.own c) → (u.findNode r.nodeId).isSome →
        (u.back r.nodeId).filter (fun q => q.hash ≠ (r.backward a).hash) = s.back r.nodeId →
        (∀ c, c ≠ r.nodeId → u.back c = s.back c) →
        (u.removeReference a r).graph.SameReferences s := by
      intro u hu hnode hfilt hother c
      obtain ⟨relatedNode, hrel⟩ := Option.isSome_iff_exists.mp hnode
      have hhas : r.hash ∈ (u.own a).map ReferenceImpl.hash := by
        rw [hu]
        exact hasHash_of_mem hr
      rw [removeReference_of_own hhas hrel]
      rw [own_removeOwnReference, back_removeOwnReference, hu, hu, hfilt]
      constructor
      · split_ifs with hc
        · rw [hc, hdecl.own, if_pos rfl, filter_hash_append hownS]
        · rw [hdecl.own, if_neg hc]
      · split_ifs with hc
        · rw [hc]
        · exact hother c hc
    rcases _propagate_ref_cases (a := a) (hpend.typed a r (mem_of_own hr))
      (fun _ => htargetT) (fun _ => hbackT) with ⟨hcall, -⟩ | ⟨u, hcall, hused, -, happ⟩
    · rw [hcall]
      refine hrest t (fun _ => rfl) htargetT ?_ fun c _ => hdecl.back c
      rw [hdecl.back]
      exact filter_hash_of_not_hasHash hback
    · rw [hcall]
      refine hrest u happ.own ?_ ?_ fun c hc => ?_
      · rw [isSome_congr happ.attributes]
        exact htargetT
      · rw [happ.back, if_pos rfl, hdecl.back]
        exact filter_hash_append hback
      · rw [happ.back, if_neg hc, hdecl.back]

/-! ### Creating -/

lemma foldlM_addReference {refs : List ReferenceImpl} {node created : BaseNodeImpl}
    (hback : node._back_referenceIdx = []) (hdist : (node._referenceIdx.map ReferenceImpl.hash).Nodup)
    (h : refs.foldlM BaseNodeImpl.__addReference node = .ok created) :
    created = { node with _referenceIdx := node._referenceIdx ++ refs } ∧
      ((node._referenceIdx ++ refs).map ReferenceImpl.hash).Nodup := by
  induction refs generalizing node with
  | nil =>
    obtain rfl := Except.ok.inj h
    simpa using hdist
  | cons r refs ih =>
    rw [List.foldlM_cons] at h
    unfold BaseNodeImpl.__addReference at h
    have hno : node.hasBackReference r.hash = false := by simp [BaseNodeImpl.hasBackReference, hback]
    rw [hno, if_neg Bool.false_ne_true] at h
    by_cases hhas : node.hasReference r.hash = true
    · rw [if_pos hhas] at h
      cases h
    · rw [if_neg hhas] at h
      have hfresh : r.hash ∉ node._referenceIdx.map ReferenceImpl.hash := by
        intro hmem
        exact hhas (by simpa [BaseNodeImpl.hasReference] using hmem)
      have hnext : ((node._referenceIdx ++ [r]).map ReferenceImpl.hash).Nodup := by
        rw [map_append, map_singleton]
        exact List.nodup_append.mpr ⟨hdist, List.nodup_singleton _, fun x hx y hy => by
          rintro rfl
          exact hfresh (List.mem_singleton.mp hy ▸ hx)⟩
      have hrest := @ih { node with _referenceIdx := node._referenceIdx ++ [r] } hback hnext h
      simpa using hrest

/-- **The references of a node are propagated** one after the other.

**Proof sketch.** Induction on the references that are left: what the others have added to a target
has another hash, since the references of the node have. -/
lemma propagate_all {todo : List ReferenceImpl}
    (h : s.ConsistentBut fun c q => c = a ∧ q ∈ todo) (hdecl : ∀ q ∈ todo, q ∈ s.own a)
    (hdist : (todo.map ReferenceImpl.hash).Nodup)
    (htarget : ∀ q ∈ todo, s.isMassivelyUsed q.referenceType = false → (s.findNode q.nodeId).isSome)
    (hback : ∀ q ∈ todo, s.isMassivelyUsed q.referenceType = false →
      ¬ HasHash (s.back q.nodeId) (q.backward a).hash)
    (hown : ∀ q ∈ todo, s.isMassivelyUsed q.referenceType = false →
      HasHash (s.own q.nodeId) (q.backward a).hash → q.nodeId = a ∧ q.backward a ∈ s.own a) :
    (callAll (fun s ref => s._propagate_ref a ref) todo s).graph.Consistent := by
  induction todo generalizing s with
  | nil => exact h.mono fun c q hq => absurd hq.2 not_mem_nil
  | cons r todo ih =>
    have hmem : r ∈ r :: todo := List.mem_cons_self
    obtain ⟨hthrow, hnext⟩ := h.propagate (hdecl r hmem) (htarget r hmem) (hback r hmem)
      (hown r hmem)
    rw [callAll_cons]
    have hpend : (s._propagate_ref a r).graph.ConsistentBut fun c q => c = a ∧ q ∈ todo := by
      refine hnext.mono ?_
      rintro c q ⟨⟨hc, hq⟩, hne⟩
      exact ⟨hc, (List.mem_cons.mp hq).resolve_left fun heq => hne ⟨hc, heq⟩⟩
    rw [List.map_cons, List.nodup_cons] at hdist
    rcases _propagate_ref_cases (h.typed a r (mem_of_own (hdecl r hmem)))
      (htarget r hmem) (hback r hmem) with ⟨hcall, -⟩ | ⟨t, hcall, -, -, happ⟩
    · rw [hcall] at hpend ⊢
      exact ih hpend (fun q hq => hdecl q (mem_cons_of_mem _ hq)) hdist.2
        (fun q hq => htarget q (mem_cons_of_mem _ hq))
        (fun q hq => hback q (mem_cons_of_mem _ hq))
        (fun q hq => hown q (mem_cons_of_mem _ hq))
    · rw [hcall] at hpend ⊢
      have hmass := isMassivelyUsed_congr happ.attributes
      refine ih hpend (fun q hq => ?_) hdist.2 (fun q hq hused => ?_) (fun q hq hused => ?_)
        fun q hq hused hhas => ?_
      · rw [happ.own]
        exact hdecl q (mem_cons_of_mem _ hq)
      · rw [isSome_congr happ.attributes]
        exact htarget q (mem_cons_of_mem _ hq) ((hmass _).symm.trans hused)
      · have hno := hback q (mem_cons_of_mem _ hq) ((hmass _).symm.trans hused)
        rw [happ.back]
        split_ifs with hnodeId
        · rw [HasHash, map_append, mem_append, not_or, map_singleton,
            List.mem_singleton]
          refine ⟨hno, fun heq => hdist.1 ?_⟩
          rw [← ReferenceImpl.hash_backward_inj hnodeId heq]
          exact hasHash_of_mem hq
        · exact hno
      · rw [happ.own] at hhas ⊢
        exact hown q (mem_cons_of_mem _ hq) ((hmass _).symm.trans hused) hhas

/-- A node is registered with the references that it declares. -/
structure Registered (s t : NodeGraph) (nodeId : NodeIdText) (references : List ReferenceImpl) :
    Prop where
  fresh : s.findNode nodeId = none
  other : ∀ c, c ≠ nodeId → t.findNode c = s.findNode c
  own : t.own nodeId = references
  back : t.back nodeId = []

namespace Registered

variable {s t : NodeGraph} {nodeId : NodeIdText} {references : List ReferenceImpl}
  (hreg : s.Registered t nodeId references)

include hreg

lemma own_other {c : NodeIdText} (hc : c ≠ nodeId) : t.own c = s.own c := by
  rw [NodeGraph.own, hreg.other c hc, NodeGraph.own]

lemma back_eq_back (c : NodeIdText) : t.back c = s.back c := by
  by_cases hc : c = nodeId
  · rw [hc, hreg.back, back_of_none hreg.fresh]
  · rw [NodeGraph.back, hreg.other c hc, NodeGraph.back]

variable {T : NodeIdText}

section

variable (hT : s.isReferenceType T = true)
include hT

lemma attributes_eq :
    t.attributes T = s.attributes T := by
  have hne : T ≠ nodeId := by
    rintro rfl
    simp [NodeGraph.isReferenceType, findReferenceType, hreg.fresh] at hT
  rw [attributes, hreg.other T hne, attributes]

lemma isMassivelyUsed :
    t.isMassivelyUsed T = s.isMassivelyUsed T := by
  rw [isMassivelyUsed_eq, isMassivelyUsed_eq, hreg.attributes_eq hT]

lemma isReferenceType :
    t.isReferenceType T = true := by
  rwa [isReferenceType_eq, hreg.attributes_eq hT, ← isReferenceType_eq]

end

/-- **The references of a node that is registered** are pending. -/
lemma consistentBut (h : s.Consistent) (hdist : (references.map ReferenceImpl.hash).Nodup)
    (htyped : ∀ q ∈ references, t.isReferenceType q.referenceType = true) :
    t.ConsistentBut fun c q => c = nodeId ∧ q ∈ references := by
  have hother : ∀ c, ∀ q ∈ t.own c, ¬ (c = nodeId ∧ q ∈ references) → q ∈ s.own c := by
    intro c q hq hnot
    have hc : c ≠ nodeId := by
      rintro rfl
      exact hnot ⟨rfl, hreg.own ▸ hq⟩
    rwa [← hreg.own_other hc]
  refine ⟨fun c q hq hused hself hnot => ?_, fun c q hq hused hself hnot => ?_, fun c q hq => ?_,
    fun c => ?_, fun c q hq => ?_⟩
  · have hqs := hother c q hq hnot
    rw [hreg.isMassivelyUsed (h.typed c q (mem_of_own hqs))] at hused
    rw [hreg.back_eq_back]
    exact h.mirrored c q hqs hused hself not_false
  · have hqs := hother c q hq hnot
    have hc : c ≠ nodeId := by
      rintro rfl
      exact hnot ⟨rfl, hreg.own ▸ hq⟩
    rw [hreg.isMassivelyUsed (h.typed c q (mem_of_own hqs))] at hused
    rw [allReferences, hreg.own_other hc, hreg.back_eq_back]
    exact h.mirroredSelf c q hqs hused hself not_false
  · rw [hreg.back_eq_back] at hq
    obtain ⟨hused, hown⟩ := h.stored c q hq
    have hc : q.nodeId ≠ nodeId := by
      intro heq
      rw [heq, own_of_none hreg.fresh] at hown
      cases hown
    rw [hreg.isMassivelyUsed (h.typed c q (mem_of_back hq)), hreg.own_other hc]
    exact ⟨hused, hown⟩
  · by_cases hc : c = nodeId
    · rw [hc, allReferences, hreg.own, hreg.back, List.append_nil]
      exact hdist
    · rw [allReferences, hreg.own_other hc, hreg.back_eq_back]
      exact h.distinct c
  · by_cases hc : c = nodeId
    · rw [hc, allReferences, hreg.own, hreg.back, List.append_nil] at hq
      exact htyped q hq
    · rw [allReferences, hreg.own_other hc, hreg.back_eq_back] at hq
      exact hreg.isReferenceType (h.typed c q hq)

lemma not_mem_of_backward (h : s.Consistent) {q : ReferenceImpl}
    (hused : t.isMassivelyUsed q.referenceType = false) :
    q.backward nodeId ∉ t.back q.nodeId ∧
      (q.backward nodeId ∈ t.own q.nodeId → q.nodeId = nodeId) := by
  constructor
  · intro hback
    rw [hreg.back_eq_back] at hback
    have hown := (h.stored _ _ hback).2
    rw [backward_nodeId, own_of_none hreg.fresh] at hown
    cases hown
  · intro hown
    by_contra hself
    rw [hreg.own_other hself] at hown
    have hT : s.isReferenceType (q.backward nodeId).referenceType = true :=
      h.typed _ _ (mem_of_own hown)
    have hmirr := h.mirrored _ _ hown ((hreg.isMassivelyUsed hT).symm.trans hused)
      (fun heq => hself heq.symm) not_false
    rw [backward_nodeId, back_of_none hreg.fresh] at hmirr
    cases hmirr

end Registered

variable {nodeId : NodeIdText}

/-- **A node is created** under its condition. -/
theorem createNode_consistent (h : s.Consistent)
    {browseName : BuiltIn.QualifiedName} {nodeClass : NodeClass}
    (hcreate : s.CanCreate nodeId browseName nodeClass references)
    (htargets : ∀ r ∈ references, r.nodeId = nodeId ∨ (s.findNode r.nodeId).isSome) :
    (s.createNode nodeId browseName nodeClass references).graph.Consistent := by
  unfold createNode
  split
  · exact h
  · next node hfold =>
    obtain ⟨rfl, hdist⟩ :=
      @foldlM_addReference references { browseName, nodeClass } node rfl List.nodup_nil hfold
    split_ifs with hregistered
    · exact h
    · rw [Option.not_isSome_iff_eq_none] at hregistered
      have hconditions := hcreate hregistered
      dsimp only [List.nil_append] at hdist hconditions ⊢
      set t := s.setNode nodeId (some { browseName, nodeClass, _referenceIdx := references })
        with ht
      have hnodeId : t.findNode nodeId =
          some { browseName, nodeClass, _referenceIdx := references } := by
        rw [ht, findNode_setNode, if_pos rfl]
      have hreg : s.Registered t nodeId references := by
        refine ⟨hregistered, fun c hc => ?_, own_eq hnodeId, back_eq hnodeId⟩
        rw [ht, findNode_setNode, if_neg hc]
      unfold propagate_back_references
      rw [hreg.own]
      refine propagate_all (hreg.consistentBut h hdist fun q hq => (hconditions q hq).1)
        (fun q hq => hreg.own ▸ hq) hdist (fun q hq _ => ?_) (fun q hq hused hhas => ?_)
        fun q hq hused hhas => ?_
      · by_cases hself : q.nodeId = nodeId
        · rw [hself, hnodeId]
          rfl
        · rw [hreg.other _ hself]
          exact (htargets q hq).resolve_left hself
      · obtain ⟨p, hp, hhash⟩ := hasHash_iff.mp hhas
        obtain rfl := (hconditions q hq).2 hused p (mem_of_back hp) hhash
        exact (hreg.not_mem_of_backward h hused).1 hp
      · obtain ⟨p, hp, hhash⟩ := hasHash_iff.mp hhas
        obtain rfl := (hconditions q hq).2 hused p (mem_of_own hp) hhash
        have hself := (hreg.not_mem_of_backward h hused).2 hp
        exact ⟨hself, hself ▸ hp⟩

/-! ### Detaching -/

section Detach

variable {s : NodeGraph} {lookups : Lookups} {nodeId : NodeIdText}

/-- The reference that is propagated is gone from the other node. -/
def MirrorGone (s : NodeGraph) (nodeId : NodeIdText) (r : ReferenceImpl) (t : NodeGraph) : Prop :=
  s.isMassivelyUsed r.referenceType = false → r.backward nodeId ∉ t.allReferences r.nodeId

variable {r : ReferenceImpl}

lemma MirrorGone.shrinks {t u : NodeGraph} (h : MirrorGone s nodeId r t)
    (htu : t.Shrinks u) : MirrorGone s nodeId r u :=
  fun hused hmem => h hused (htu.allReferences hmem)

lemma CanDetach.eq_backward (h : s.Consistent) (hdetach : s.CanDetach lookups nodeId)
    {r q : ReferenceImpl} (hr : r ∈ s.allReferences nodeId) (hq : q ∈ s.allReferences r.nodeId)
    (hhash : q.hash = (r.backward nodeId).hash) : q = r.backward nodeId := by
  cases hused : s.isMassivelyUsed r.referenceType with
  | false => exact h.hash_inj hq (h.mirror_mem hr hused) hhash
  | true =>
    rcases mem_allReferences.mp hr with hr | hr
    · exact hdetach.clash r hr hused q hq hhash
    · rw [(h.stored nodeId r hr).1] at hused
      cases hused

variable {t : NodeGraph}

/-- **A removal of the detachment** meets the condition for removing. -/
lemma CanDetach.canRemove (h : s.Consistent) (hdetach : s.CanDetach lookups nodeId)
    (hst : s.Shrinks t) (hr : r ∈ s.allReferences nodeId)
    (hdet : Detachable lookups r) : t.CanRemove r.nodeId (r.backward nodeId) := by
  constructor
  · intro hhas
    obtain ⟨q, hq, hhash⟩ := hasHash_iff.mp hhas
    rwa [← hdetach.eq_backward h hr (hst.allReferences hq) hhash]
  · intro hown
    rw [backward_referenceType, backward_backward, hst.isMassivelyUsed]
    split_ifs with hused
    · intro hhas
      rcases mem_allReferences.mp hr with hr | hr
      · obtain ⟨q, hq, hhash⟩ := hasHash_iff.mp hhas
        exact h.not_mem_back hr (hasHash_iff.mpr ⟨q, hst.back _ hq, hhash⟩)
      · rw [(h.stored nodeId r hr).1] at hused
        cases hused
    · intro hself hrown
      have hnodeId : r.nodeId = nodeId := hself.symm
      rw [hnodeId] at hown hrown
      exact hdetach.twice r (hst.own _ hrown) (Bool.not_eq_true _ ▸ hused) hnodeId
        (hst.own _ hown) hdet

/-- What a step of the detachment does. -/
structure DetachStep (s : NodeGraph) (nodeId : NodeIdText) (r : ReferenceImpl) (t : NodeGraph)
    (call : Call) : Prop where
  consistent : call.graph.Consistent
  shrinks : t.Shrinks call.graph
  gone : call.thrown = none → MirrorGone s nodeId r call.graph

variable (h : s.Consistent) (hdetach : s.CanDetach lookups nodeId)
  (hnode : (s.findNode nodeId).isSome)

include h hdetach hnode

section

variable (ht : t.Consistent) (hst : s.Shrinks t) (hr : r ∈ s.allReferences nodeId)
  (hdet : Detachable lookups r)
include ht hst hr hdet

lemma removeReference_detachStep :
    DetachStep s nodeId r t (t.removeReference r.nodeId (r.backward nodeId)) := by
  have hremoved := removeReference_removed ht (hdetach.canRemove h hst hr hdet)
  have hnodeT : (t.findNode nodeId).isSome := by
    rwa [isSome_congr hst.attributes]
  exact ⟨hremoved.consistent, hremoved.shrinks, fun _ _ => hremoved.removed hnodeT⟩

lemma detachNonHierarchical_detachStep :
    DetachStep s nodeId r t (detachNonHierarchical lookups nodeId t r) := by
  unfold detachNonHierarchical
  split_ifs with hundefined hdisp
  · refine ⟨ht, Shrinks.refl t, fun _ hused => ?_⟩
    rw [← hst.isMassivelyUsed, hundefined.1] at hused
    cases hused
  · exact ⟨ht, Shrinks.refl t, nofun⟩
  · split
    · next hnone =>
      refine ⟨ht, Shrinks.refl t, fun _ _ hmem => ?_⟩
      rw [allReferences, own_of_none hnone, back_of_none hnone] at hmem
      cases hmem
    · exact removeReference_detachStep h hdetach hnode ht hst hr hdet

lemma detachHierarchical_detachStep :
    DetachStep s nodeId r t (detachHierarchical nodeId t r) := by
  unfold detachHierarchical
  split
  · exact ⟨ht, Shrinks.refl t, nofun⟩
  · exact removeReference_detachStep h hdetach hnode ht hst hr hdet

end

omit h hdetach hnode in
/-- **A loop of the detachment**. -/
lemma callAll_detachStep (f : NodeGraph → ReferenceImpl → Call) (refs : List ReferenceImpl)
    (hstep : ∀ t, t.Consistent → s.Shrinks t → ∀ r ∈ refs, DetachStep s nodeId r t (f t r))
    (ht : t.Consistent) (hst : s.Shrinks t) :
    (callAll f refs t).graph.Consistent ∧ t.Shrinks (callAll f refs t).graph ∧
      ((callAll f refs t).thrown = none →
        ∀ r ∈ refs, MirrorGone s nodeId r (callAll f refs t).graph) := by
  have hinv : ∀ u, ∀ r ∈ refs, u.Consistent ∧ t.Shrinks u →
      (f u r).graph.Consistent ∧ t.Shrinks (f u r).graph := fun u r hr hu =>
    ⟨(hstep u hu.1 (hst.trans hu.2) r hr).consistent,
      hu.2.trans (hstep u hu.1 (hst.trans hu.2) r hr).shrinks⟩
  have hfinal := callAll_invariant hinv ⟨ht, Shrinks.refl t⟩
  refine ⟨hfinal.1, hfinal.2, fun hthrow => ?_⟩
  exact callAll_forall hinv
    (fun u r hr hu hnone => (hstep u hu.1 (hst.trans hu.2) r hr).gone hnone)
    (fun u r hr q hu hgone => hgone.shrinks (hstep u hu.1 (hst.trans hu.2) r hr).shrinks)
    ⟨ht, Shrinks.refl t⟩ hthrow

/-- **The removals of the detachment** leave references that are not detachable.

**Proof sketch.** A reference that is left was left by each of the three loops, and so it is in the list
of one of them if it is detachable. Then its mirror is gone, but the nodes are consistent. -/
lemma removeReferences_left :
    (s.removeReferences lookups nodeId).graph.Consistent ∧
      s.Shrinks (s.removeReferences lookups nodeId).graph ∧
      ((s.removeReferences lookups nodeId).thrown = none →
        ∀ r ∈ (s.removeReferences lookups nodeId).graph.allReferences nodeId,
          s.isMassivelyUsed r.referenceType = false → ¬ Detachable lookups r) := by
  have hmem : ∀ {t : NodeGraph}, s.Shrinks t → ∀ {T f r},
      r ∈ t.findReferencesEx lookups nodeId T f → r ∈ s.allReferences nodeId ∧ r.isForward = f ∧
        lookups.checkHasSubtype T r.referenceType = true := by
    intro t hst T f r hr
    obtain ⟨hr, hp⟩ := List.mem_filter.mp hr
    rw [decide_eq_true_eq] at hp
    exact ⟨hst.allReferences hr, hp⟩
  have hlist : ∀ {t : NodeGraph} {T f r}, r ∈ t.allReferences nodeId → r.isForward = f →
      lookups.checkHasSubtype T r.referenceType = true →
      r ∈ t.findReferencesEx lookups nodeId T f := by
    intro t T f r hr hf hT
    exact List.mem_filter.mpr ⟨hr, decide_eq_true ⟨hf, hT⟩⟩
  -- the references to others that are not hierarchical
  obtain ⟨h1, hs1, hgone1⟩ := callAll_detachStep (detachNonHierarchical lookups nodeId)
    (s.findReferencesEx lookups nodeId .NonHierarchicalReferences false)
    (fun t ht hst r hr => detachNonHierarchical_detachStep h hdetach hnode ht hst
      (hmem (Shrinks.refl s) hr).1 (Or.inl (hmem (Shrinks.refl s) hr).2.2)) h (Shrinks.refl s)
  unfold removeReferences
  rcases Call.andThen_eq (callAll (detachNonHierarchical lookups nodeId)
    (s.findReferencesEx lookups nodeId .NonHierarchicalReferences false) s) _ with
    ⟨hnone1, heq⟩ | ⟨hsome, heq⟩ <;> rw [heq]
  swap
  · exact ⟨h1, hs1, fun hnone => absurd hnone hsome⟩
  set t1 := (callAll (detachNonHierarchical lookups nodeId)
    (s.findReferencesEx lookups nodeId .NonHierarchicalReferences false) s).graph
  obtain ⟨h2, hs2, hgone2⟩ := callAll_detachStep (detachNonHierarchical lookups nodeId)
    (t1.findReferencesEx lookups nodeId .NonHierarchicalReferences true)
    (fun t ht hst r hr => detachNonHierarchical_detachStep h hdetach hnode ht hst
      (hmem hs1 hr).1 (Or.inl (hmem hs1 hr).2.2)) h1 hs1
  rcases Call.andThen_eq (callAll (detachNonHierarchical lookups nodeId)
    (t1.findReferencesEx lookups nodeId .NonHierarchicalReferences true) t1) _ with
    ⟨hnone2, heq⟩ | ⟨hsome, heq⟩ <;> rw [heq]
  swap
  · exact ⟨h2, hs1.trans hs2, fun hnone => absurd hnone hsome⟩
  set t2 := (callAll (detachNonHierarchical lookups nodeId)
    (t1.findReferencesEx lookups nodeId .NonHierarchicalReferences true) t1).graph
  -- the references to the parents
  obtain ⟨h3, hs3, hgone3⟩ := callAll_detachStep (detachHierarchical nodeId)
    (t2.findReferencesEx lookups nodeId .HierarchicalReferences false)
    (fun t ht hst r hr => detachHierarchical_detachStep h hdetach hnode ht hst
      (hmem (hs1.trans hs2) hr).1
      (Or.inr ⟨(hmem (hs1.trans hs2) hr).2.1, (hmem (hs1.trans hs2) hr).2.2⟩))
    h2 (hs1.trans hs2)
  have hall := (hs1.trans hs2).trans hs3
  refine ⟨h3, hall, fun hnone3 r hr hused hdet => ?_⟩
  have hmirr := h3.mirror_mem hr ((hall.isMassivelyUsed _).trans hused)
  rcases hdet with hT | ⟨hfwd, hT⟩
  · cases hfwd : r.isForward with
    | false =>
      have hr0 := hlist (hall.allReferences hr) hfwd hT
      exact ((hgone1 hnone1 r hr0).shrinks (hs2.trans hs3)) hused hmirr
    | true =>
      have hr1 := hlist ((hs2.trans hs3).allReferences hr) hfwd hT
      exact ((hgone2 hnone2 r hr1).shrinks hs3) hused hmirr
  · have hr2 := hlist (hs3.allReferences hr) hfwd hT
    exact hgone3 hnone3 r hr2 hused hmirr

end Detach

/-! ### Deleting -/

/-- What an unpropagation leaves: the own references, and the back references that are not references
to the node. -/
structure Unpropagated (s : NodeGraph) (nodeId : NodeIdText) (t : NodeGraph) : Prop where
  attributes : t.attributes = s.attributes
  own : ∀ c, t.own c = s.own c
  back : ∀ c, (t.back c).Sublist (s.back c)
  kept : ∀ c, ∀ q ∈ s.back c, q.nodeId ≠ nodeId → q ∈ t.back c

lemma Unpropagated.refl (s : NodeGraph) (nodeId : NodeIdText) : s.Unpropagated nodeId s :=
  ⟨rfl, fun _ => rfl, fun _ => List.Sublist.refl _, fun _ _ hq _ => hq⟩

lemma Unpropagated.trans {s t u : NodeGraph} (hst : s.Unpropagated nodeId t)
    (htu : t.Unpropagated nodeId u) : s.Unpropagated nodeId u :=
  ⟨htu.attributes.trans hst.attributes, fun c => (htu.own c).trans (hst.own c),
    fun c => (htu.back c).trans (hst.back c),
    fun c q hq hne => htu.kept c q (hst.kept c q hq hne) hne⟩

section Unpropagate

variable {s : NodeGraph} {nodeId : NodeIdText} {r : ReferenceImpl}

lemma unpropagate_unpropagated (hclash : ∀ q ∈ s.back r.nodeId, q.hash = (r.backward nodeId).hash →
      q = r.backward nodeId) : s.Unpropagated nodeId (unpropagate nodeId s r).graph := by
  unfold unpropagate
  split
  · exact Unpropagated.refl s nodeId
  · split_ifs
    · exact Unpropagated.refl s nodeId
    · refine ⟨attributes_eraseBack _ _ _, fun c => own_eraseBack _ _ _ _, fun c => ?_,
        fun c q hq hne => ?_⟩
      · rw [back_eraseBack]
        split_ifs with hc
        · rw [hc]; exact List.filter_sublist
        · exact List.Sublist.refl _
      · rw [back_eraseBack]
        split_ifs with hc
        · subst hc
          rw [mem_filter, decide_eq_true_eq]
          refine ⟨hq, fun hhash => hne ?_⟩
          rw [hclash q hq hhash, backward_nodeId]
        · exact hq

lemma unpropagate_not_mem (hthrow : (unpropagate nodeId s r).thrown = none) :
    r.backward nodeId ∉ (unpropagate nodeId s r).graph.back r.nodeId := by
  unfold unpropagate at hthrow ⊢
  split at hthrow
  · next hnone =>
    rw [back_of_none hnone]
    exact not_mem_nil
  · split_ifs at hthrow ⊢ with hself
    rw [back_eraseBack, if_pos rfl, mem_filter, decide_eq_true_eq]
    exact fun hmem => hmem.2 rfl

lemma unpropagate_eq_self
    (h : r.nodeId = nodeId ∨ ¬ HasHash (s.back r.nodeId) (r.backward nodeId).hash) :
    (unpropagate nodeId s r).graph = s := by
  unfold unpropagate
  split
  · rfl
  · split_ifs with hself
    · rfl
    · exact eraseBack_of_not_mem (h.resolve_left hself)

end Unpropagate

/-- **The node is removed** when what it has declared is unpropagated and no other node has declared a
reference to it. -/
lemma consistent_setNode_none (h : s.Consistent) (hunprop : s.Unpropagated nodeId t)
    (hclass : s.isReferenceType nodeId = false)
    (hgone : ∀ r ∈ s.own nodeId, r.backward nodeId ∉ t.back r.nodeId)
    (hdecl : ∀ r ∈ s.back nodeId, r.nodeId = nodeId) : (t.setNode nodeId none).Consistent := by
  have hown : ∀ c, c ≠ nodeId → (t.setNode nodeId none).own c = s.own c := by
    intro c hc
    rw [own_setNode, if_neg hc, hunprop.own]
  have hback : ∀ c, c ≠ nodeId → (t.setNode nodeId none).back c = t.back c := by
    intro c hc
    rw [back_setNode, if_neg hc]
  have hnone : ∀ c q, q ∈ (t.setNode nodeId none).allReferences c → c ≠ nodeId := by
    rintro c q hq rfl
    rw [allReferences, own_setNode, if_pos rfl, back_setNode, if_pos rfl] at hq
    cases hq
  have hattrs : ∀ T, s.isReferenceType T = true →
      (t.setNode nodeId none).attributes T = s.attributes T := by
    intro T hT
    have hne : T ≠ nodeId := by
      rintro rfl
      rw [hclass] at hT
      cases hT
    rw [← hunprop.attributes, attributes, findNode_setNode, if_neg hne, attributes]
  have hmass : ∀ T, s.isReferenceType T = true →
      (t.setNode nodeId none).isMassivelyUsed T = s.isMassivelyUsed T := by
    intro T hT
    rw [isMassivelyUsed_eq, isMassivelyUsed_eq, hattrs T hT]
  have hsub : ∀ c q, q ∈ (t.setNode nodeId none).allReferences c → q ∈ s.allReferences c := by
    intro c q hq
    have hc := hnone c q hq
    rw [mem_allReferences, hown c hc, hback c hc] at hq
    rw [mem_allReferences]
    exact hq.imp_right fun hq => (hunprop.back c).subset hq
  have htyped : ∀ c q, q ∈ (t.setNode nodeId none).allReferences c →
      s.isReferenceType q.referenceType = true := fun c q hq => h.typed c q (hsub c q hq)
  refine ⟨fun c q hq hused hself _ => ?_, fun c q hq hused hself _ => ?_, fun c q hq => ?_,
    fun c => ?_, fun c q hq => ?_⟩
  · have hc := hnone c q (mem_of_own hq)
    rw [hmass _ (htyped c q (mem_of_own hq))] at hused
    rw [hown c hc] at hq
    have hmirr := h.mirrored c q hq hused hself not_false
    have hnodeId : q.nodeId ≠ nodeId := by
      intro heq
      rw [heq] at hmirr
      exact hc (hdecl _ hmirr)
    rw [hback _ hnodeId]
    exact hunprop.kept _ _ hmirr hc
  · have hc := hnone c q (mem_of_own hq)
    rw [hmass _ (htyped c q (mem_of_own hq))] at hused
    rw [hown c hc] at hq
    rw [mem_allReferences, hown c hc, hback c hc]
    exact (mem_allReferences.mp (h.mirroredSelf c q hq hused hself not_false)).imp_right
      fun hmirr => hunprop.kept c _ hmirr hc
  · have hc := hnone c q (mem_of_back hq)
    rw [hmass _ (htyped c q (mem_of_back hq))]
    rw [hback c hc] at hq
    obtain ⟨hused, hother⟩ := h.stored c q ((hunprop.back c).subset hq)
    refine ⟨hused, ?_⟩
    have hnodeId : q.nodeId ≠ nodeId := by
      intro heq
      rw [heq] at hother
      have hdel := hgone _ hother
      rw [backward_nodeId, ← heq, backward_backward] at hdel
      exact hdel hq
    rwa [hown _ hnodeId]
  · by_cases hc : c = nodeId
    · rw [hc, allReferences, own_setNode, if_pos rfl, back_setNode, if_pos rfl]
      exact List.nodup_nil
    · rw [allReferences, hown c hc, hback c hc]
      exact (h.distinct c).sublist (List.Sublist.map _
        (List.Sublist.append (List.Sublist.refl _) (hunprop.back c)))
  · have hT := htyped c q hq
    rwa [isReferenceType_eq, hattrs _ hT, ← isReferenceType_eq]

/-- A node is deleted under its condition.

**Proof sketch.** The removals leave references that are not detachable. If the deletion is refused,
these are not propagated, or lead to the node itself, and nothing more is deleted. Otherwise no other
node has declared one of them, and the back references that are left are deleted. -/
lemma detached_consistent (h : s.Consistent) {lookups : Lookups}
    {node : BaseNodeImpl} (hnode : s.findNode nodeId = some node)
    (hdetach : s.CanDetach lookups nodeId) :
    ((s.detachNode lookups nodeId).andThen fun t => t._deleteNode nodeId).graph.Consistent := by
  have hsome : (s.findNode nodeId).isSome := by rw [hnode]; rfl
  obtain ⟨h1, hst, hleft⟩ := removeReferences_left h hdetach hsome
  unfold detachNode
  rcases Call.andThen_eq (s.removeReferences lookups nodeId)
    (fun t => t.unpropagate_back_references nodeId) with ⟨hnone, heq⟩ | ⟨hthrow, heq⟩ <;> rw [heq]
  swap
  · rcases Call.andThen_eq (s.removeReferences lookups nodeId) (fun t => t._deleteNode nodeId) with
      ⟨hnone, -⟩ | ⟨-, heq⟩
    · exact absurd hnone hthrow
    · rw [heq]
      exact h1
  replace hleft := hleft hnone
  set t := (s.removeReferences lookups nodeId).graph
  -- a step deletes references to the node only
  have hclash : ∀ r ∈ t.own nodeId, ∀ q ∈ t.back r.nodeId, q.hash = (r.backward nodeId).hash →
      q = r.backward nodeId := fun r hr q hq hhash =>
    hdetach.eq_backward h (mem_of_own (hst.own _ hr))
      (mem_of_back (hst.back _ hq)) hhash
  -- when the deletion is refused, a step deletes nothing
  have hkept : s.DeletionRefused lookups nodeId → ∀ r ∈ t.own nodeId,
      r.nodeId = nodeId ∨ ¬ HasHash (t.back r.nodeId) (r.backward nodeId).hash := by
    intro href r hr
    by_cases hself : r.nodeId = nodeId
    · exact Or.inl hself
    · right
      intro hhas
      obtain ⟨q, hq, hhash⟩ := hasHash_iff.mp hhas
      have hused := (h1.stored _ _ hq).1
      rw [hclash r hr q hq hhash, backward_referenceType, hst.isMassivelyUsed] at hused
      exact hleft r (mem_of_own hr) hused
        (hdetach.kept href r (hst.own _ hr) hused hself)
  have hunch : s.DeletionRefused lookups nodeId →
      (t.unpropagate_back_references nodeId).graph = t := by
    intro href
    refine callAll_invariant (I := fun u => u = t) ?_ rfl
    rintro _ r hr rfl
    exact unpropagate_eq_self (hkept href r hr)
  rcases Call.andThen_eq (t.unpropagate_back_references nodeId) (fun u => u._deleteNode nodeId) with
    ⟨hnone, heq⟩ | ⟨hthrow, heq⟩ <;> rw [heq]
  · have hinv : ∀ u, ∀ r ∈ t.own nodeId, t.Unpropagated nodeId u →
        t.Unpropagated nodeId (unpropagate nodeId u r).graph := fun u r hr hu =>
      hu.trans (unpropagate_unpropagated fun q hq hhash =>
        hclash r hr q ((hu.back _).subset hq) hhash)
    have hunprop : t.Unpropagated nodeId (t.unpropagate_back_references nodeId).graph :=
      callAll_invariant hinv (Unpropagated.refl t nodeId)
    have hgone : ∀ r ∈ t.own nodeId,
        r.backward nodeId ∉ (t.unpropagate_back_references nodeId).graph.back r.nodeId := by
      refine callAll_forall (P := fun r u => r.backward nodeId ∉ u.back r.nodeId) hinv
        (fun u r _ _ hnone => unpropagate_not_mem hnone)
        (fun u r hr q hu hq => ?_) (Unpropagated.refl t nodeId) hnone
      have hstep := unpropagate_unpropagated (s := u) fun q hq hhash =>
        hclash r hr q ((hu.back _).subset hq) hhash
      exact fun hmem => hq ((hstep.back _).subset hmem)
    have hattrs : (t.unpropagate_back_references nodeId).graph.attributes = s.attributes :=
      hunprop.attributes.trans hst.attributes
    unfold _deleteNode
    split
    · next hnone =>
      have hfound := attributes_isSome (t.unpropagate_back_references nodeId).graph nodeId
      rw [hattrs, attributes_isSome, hnone, hnode] at hfound
      cases hfound
    · next node' hnode' =>
      have hclass : node'.nodeClass = node.nodeClass := by
        have hsame := congrFun hattrs nodeId
        rw [attributes, attributes, hnode', hnode, Option.map_some, Option.map_some,
          Option.some.injEq, Prod.mk.injEq] at hsame
        exact hsame.2
      rw [hclass]
      split_ifs with href
      · rw [hunch (Or.inl ⟨node, hnode, href⟩)]
        exact h1
      · rw [not_or] at href
        refine consistent_setNode_none h1 hunprop ?_ hgone fun r hr => ?_
        · rw [hst.isReferenceType, isReferenceType_eq, attributes, hnode, Option.map_some,
            Option.any_some]
          exact decide_eq_false href.1
        · by_contra hne
          have hused := (h1.stored _ _ hr).1
          rw [hst.isMassivelyUsed] at hused
          exact hleft r (mem_of_back hr) hused
            (hdetach.declared ⟨node, hnode, href⟩ r (hst.back _ hr) hne)
  · -- a reference of the node to itself is left
    have hself : ∃ r ∈ t.own nodeId, r.nodeId = nodeId := by
      by_contra hno
      refine hthrow (callAll_thrown (fun u r hr => ?_) t)
      unfold unpropagate
      split
      · rfl
      · rw [if_neg fun heq => hno ⟨r, hr, heq⟩]
    obtain ⟨r, hr, hself⟩ := hself
    rw [hunch]
    · exact h1
    · refine Or.inr ⟨r, hst.own _ hr, hself, ?_⟩
      cases hused : s.isMassivelyUsed r.referenceType with
      | true => exact Or.inl rfl
      | false =>
        have hmem := mem_of_own hr
        have hmirr := h1.mirror_mem hmem ((hst.isMassivelyUsed _).trans hused)
        rw [hself] at hmirr
        exact Or.inr ⟨hleft r hmem hused, hleft _ hmirr hused⟩

lemma callAll_of_callsMeet {α : Type} {f : NodeGraph → α → Call} {I : NodeGraph → Prop}
    {P : NodeGraph → α → Prop} (hstep : ∀ s a, I s → P s a → I (f s a).graph) {as : List α}
    (hs : I s) (h : CallsMeet f P as s) : I (callAll f as s).graph := by
  induction as generalizing s with
  | nil => exact hs
  | cons a as ih =>
    have ha := hstep s a hs h.1
    rcases (f s a).andThen_eq (callAll f as) with ⟨hnone, heq⟩ | ⟨-, heq⟩ <;> rw [callAll_cons, heq]
    · exact ih ha (h.2 hnone)
    · exact ha

/-- **A deletion** under its condition.

**Proof sketch.** Induction on the depth: the children are deleted at a smaller one. -/
theorem deleteNode_consistent {lookups : Lookups} (depth : ℕ) (h : s.Consistent)
    (hdelete : CanDelete lookups depth s nodeId) :
    (deleteNode lookups depth s nodeId).graph.Consistent := by
  induction depth generalizing s nodeId with
  | zero => exact h
  | succ depth ih =>
    unfold deleteNode
    split
    · exact h
    · split_ifs with hmiss hpar
      · exact h
      · exact h
      · rw [Bool.not_eq_true] at hpar
        obtain ⟨hcalls, hdetach⟩ := hdelete hpar
        have hchild := callAll_of_callsMeet (f := deleteNodePointedByReference
          (deleteNode lookups depth)) (fun t r ht hr => by
            unfold deleteNodePointedByReference
            split
            · exact ht
            · exact ih ht hr) h hcalls
        rcases Call.andThen_eq (callAll (deleteNodePointedByReference (deleteNode lookups depth))
          (s.deletedChildren lookups nodeId) s) (fun t => t.deleteDetached lookups nodeId) with
          ⟨hnone, heq⟩ | ⟨-, heq⟩ <;> rw [heq]
        · unfold deleteDetached
          split_ifs with hmiss
          · exact hchild
          · rw [not_or, Bool.not_eq_true, Bool.not_eq_true] at hmiss
            obtain ⟨node, hnode⟩ := Option.isSome_iff_exists.mp
              (by rw [← Option.not_isNone, hmiss.1]; rfl)
            exact detached_consistent hchild hnode (hdetach hnone hmiss.2)
        · exact hchild

/-! ### Runs -/

variable {operation : ReferenceOperation}

section

variable (h : s.Consistent) (htargets : s.TargetsExist operation)
  (hcond : s.ReferenceCondition operation)
include h htargets hcond

/-- **An operation** under its condition keeps the invariant. -/
theorem perform_consistent :
    (s.perform operation).graph.Consistent := by
  cases operation with
  | createNode nodeId browseName nodeClass refs =>
    exact createNode_consistent h hcond htargets
  | addReference nodeId ref =>
    rcases addReference_added h hcond htargets with ⟨-, hsame⟩ | hadded
    · exact hsame.symm ▸ h
    · exact hadded.consistent
  | removeReference nodeId ref => exact (removeReference_removed h hcond).consistent
  | deleteNode nodeId lookups depth => exact deleteNode_consistent depth h hcond

/-- **An operation** does what is expected under its condition. -/
theorem keepsReferences :
    s.KeepsReferences operation := by
  refine ⟨(perform_consistent h htargets hcond).symmetric, ?_, fun hchanges hthrow => ?_⟩
  · rintro nodeId ref rfl hnone
    rcases addReference_added h hcond htargets with ⟨hthrow, -⟩ | hadded
    · exact absurd hnone hthrow
    · exact hadded.restores
  · cases operation with
    | addReference nodeId ref =>
      rcases addReference_added h hcond htargets with ⟨-, hsame⟩ | hadded
      · simp only [perform, hsame]
        exact fun _ => ⟨rfl, rfl⟩
      · exact absurd hadded.thrown hthrow
    | removeReference nodeId ref =>
      have hremoved := removeReference_removed h hcond
      cases hnode : s.findNode nodeId with
      | none =>
        have hcall : (s.removeReference nodeId ref).graph = s := by
          unfold removeReference
          rw [hnode]
        simp only [perform, hcall]
        exact fun _ => ⟨rfl, rfl⟩
      | some node => exact absurd (hremoved.thrown (by rw [hnode]; rfl)) hthrow
    | createNode nodeId browseName nodeClass refs | deleteNode nodeId lookups depth =>
      exact hchanges.elim

end

lemma empty_consistent : empty.Consistent :=
  ⟨nofun, nofun, nofun, fun _ => List.nodup_nil, nofun⟩

end NodeGraph

end NodeOpcua
