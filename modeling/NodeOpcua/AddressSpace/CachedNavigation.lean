import NodeOpcua.AddressSpace.Navigation
import NodeOpcua.AddressSpace.ReferenceSymmetry

set_option autoImplicit false

/-!
# Navigation agrees with the references

What a node answers from its caches is to be what its references say. This file says what is expected
of the answers, and which additions and removals keep them so.

## Main definitions

* `Navigation.Agrees`.
* `Navigation.NavigationCondition`.

## Design

* When several references qualify, `getChildByName` and `parent` may answer with any of them.
-/

namespace NodeOpcua

open NodeGraph
open Function (update_self)
open List (filter_congr append_nil mem_filter filter_filter append_assoc filter_append)
open List.Nodup (of_map)
open Option (getD_none map_some)
open ReferenceImpl (hash)

namespace Navigation

/-! ### The operations -/

/-- An operation on the nodes: a mutation or a query. -/
inductive NavigationOperation
  | addReference (nodeId : NodeIdText) (reference : ReferenceImpl)
  | removeReference (nodeId : NodeIdText) (reference : ReferenceImpl)
  | findReferences (nodeId referenceType : NodeIdText) (isForward : Bool)
  | findReferencesAsObject (nodeId referenceType : NodeIdText) (isForward : Bool)
  | getChildByName (nodeId : NodeIdText) (name : String) (namespaceIndex : Option UInt16)
  | getChildren (nodeId : NodeIdText)
  | parent (nodeId : NodeIdText)

variable (tests : SubtypeTests)

/-- What an operation leaves. -/
def perform (s : Navigation) : NavigationOperation → Navigation
  | .addReference nodeId reference => s.addReference tests nodeId reference
  | .removeReference nodeId reference => s.removeReference tests nodeId reference
  | .findReferences nodeId referenceType isForward =>
    (s.findReferences nodeId referenceType isForward).2
  | .findReferencesAsObject nodeId referenceType isForward =>
    (s.findReferencesAsObject nodeId referenceType isForward).2
  | .getChildByName nodeId name namespaceIndex =>
    (s.getChildByName tests nodeId name namespaceIndex).2
  | .getChildren nodeId => (s.getChildren tests nodeId).2
  | .parent nodeId => (s.parent tests nodeId).2

/-- The step of a run. -/
def step (s : Navigation) (operation : NavigationOperation) : Navigation × List Unit :=
  (s.perform tests operation, [])

/-! ### What is expected -/

/-- The node has a forward reference to the child whose type is a subtype of `HasChild`. -/
def IsChild (g : NodeGraph) (nodeId child : NodeIdText) : Prop :=
  ∃ reference ∈ g.allReferences nodeId, reference.isForward = true ∧
    g.isA tests .HasChild reference = true ∧ g.resolveReferenceNode reference = some child

/-- The same, to a child with the name. -/
def IsChildNamed (g : NodeGraph) (nodeId : NodeIdText) (name : String)
    (namespaceIndex : Option UInt16) (child : NodeIdText) : Prop :=
  ∃ reference ∈ g.allReferences nodeId, reference.isForward = true ∧
    g.isA tests .HasChild reference = true ∧ g.resolveReferenceNode reference = some child ∧
    g.targetName reference = some name ∧
    (namespaceIndex.isSome → g.targetNamespaceIndex reference = namespaceIndex)

/-- An inverse reference whose type is a subtype of `Aggregates`. -/
def IsAggregated (g : NodeGraph) (reference : ReferenceImpl) : Prop :=
  reference.isForward = false ∧ g.isA tests .Aggregates reference = true

/-- The parent is the source of an inverse `Aggregates` reference, or null when there is none. -/
def ParentAnswer (g : NodeGraph) (nodeId : NodeIdText) (answer : Option NodeIdText) : Prop :=
  (∃ reference ∈ g.allReferences nodeId, IsAggregated tests g reference ∧
    answer = g.resolveReferenceNode reference) ∨
  (answer = none ∧ ∀ reference ∈ g.allReferences nodeId, ¬ IsAggregated tests g reference)

/-- **What is expected of the answers.** -/
structure Agrees (s : Navigation) : Prop where
  references : ∀ nodeId T f, s.graph.isReferenceType T = true →
    (s.findReferences nodeId T f).1 = s.graph.findReferences_no_cache nodeId T f
  objects : ∀ nodeId T f, s.graph.isReferenceType T = true →
    (s.findReferencesAsObject nodeId T f).1 =
      s.graph._asObject (s.graph.findReferences_no_cache nodeId T f)
  named : ∀ nodeId name namespaceIndex child,
    (s.getChildByName tests nodeId name namespaceIndex).1 = some child →
      IsChildNamed tests s.graph nodeId name namespaceIndex child
  unnamed : ∀ nodeId name namespaceIndex,
    (s.getChildByName tests nodeId name namespaceIndex).1 = none →
      ∀ child, ¬ IsChildNamed tests s.graph nodeId name namespaceIndex child
  children : ∀ nodeId child,
    child ∈ (s.getChildren tests nodeId).1 ↔ IsChild tests s.graph nodeId child
  once : ∀ nodeId, (s.getChildren tests nodeId).1.Nodup
  parent : ∀ nodeId, ParentAnswer tests s.graph nodeId (s.parent tests nodeId).1

/-! ### The conditions -/

/-- Under every name the first reference leads to a child if one does. -/
def ChildrenFirst (g : NodeGraph) (references : List ReferenceImpl) : Prop :=
  ∀ name namespaceIndex, ∀ reference ∈
    (g._select_by_browse_name references name namespaceIndex).head?,
    (∃ other ∈ g._select_by_browse_name references name namespaceIndex,
      g.isA tests .HasChild other = true) → g.isA tests .HasChild reference = true

/-- **What the references of a node are to be**, with an index by name that is kept, and a parent that
was asked for: no child has two references, and the first reference under a name leads to a child if one
does. A parent that was asked for is still one, and where there was none there is none; a node whose
parent was not asked for has none, or declares a reference. (A reference may lead to no node.) -/
structure Navigable (g : NodeGraph) (nodeId : NodeIdText) (index : Option (List ReferenceImpl))
    (parent : Option (Option NodeIdText)) : Prop where
  once : (g.children tests nodeId).Nodup
  hierarchical : ∀ q ∈ g.allReferences nodeId, q.isForward = true →
    g.isA tests .HasChild q = true → g.isA tests .HierarchicalReferences q = true
  named : ChildrenFirst tests g (index.getD (g.hierarchicalReferences tests nodeId))
  kept : ∀ p, parent = some (some p) → ∃ q ∈ g.allReferences nodeId, IsAggregated tests g q ∧
    g.resolveReferenceNode q = some p
  null : parent = some none ∨ (parent = none ∧ g.own nodeId = []) →
    ∀ q ∈ g.allReferences nodeId, IsAggregated tests g q →
      ∃ r ∈ g.allReferences nodeId, IsAggregated tests g r ∧ g.resolveReferenceNode r = none

/-- The index by name when the references have changed: what is gone is deleted, and what is new is
appended. -/
def patched (g g' : NodeGraph) (nodeId : NodeIdText) (index : Option (List ReferenceImpl)) :
    Option (List ReferenceImpl) :=
  index.map fun references =>
    (references.filter fun q => q ∈ g'.allReferences nodeId) ++
      (g'.hierarchicalReferences tests nodeId).filter fun q => q ∉ g.allReferences nodeId

/-- **What a mutation is to leave**: the nodes are navigable; a reference of a node that keeps an index
by name is still hierarchical or not, and one of a node that keeps its children, unless they are
forgotten, is still one to a child or not. -/
structure Settled (s : Navigation) (g' : NodeGraph) (forgotten : NodeIdText → Prop) : Prop where
  navigable : ∀ c, Navigable tests g' c (patched tests s.graph g' c (s.caches c)._childByNameMap)
    (s.caches c)._parent
  indexed : ∀ c, (s.caches c)._childByNameMap ≠ none → ∀ q ∈ s.graph.allReferences c,
    g'.isA tests .HierarchicalReferences q = s.graph.isA tests .HierarchicalReferences q
  children : ∀ c, ¬ forgotten c → (s.caches c)._children ≠ none → ∀ q ∈ s.graph.allReferences c,
    g'.isA tests .HasChild q = s.graph.isA tests .HasChild q

/-- **The condition for adding** a reference that is not refused: what it leaves is settled, where the
nodes that get a reference forget their children, and the first of its two halves does not change
whether it is hierarchical. -/
structure CanAdd (s : Navigation) (nodeId : NodeIdText) (reference : ReferenceImpl) : Prop where
  settled : Settled tests s (s.graph.addReference nodeId reference).graph fun c =>
    (s.graph.addReference nodeId reference).graph.allReferences c ≠ s.graph.allReferences c
  halfway : ∀ g, s.graph.Declared g nodeId reference → g.isA tests .HierarchicalReferences reference =
    (s.graph.addReference nodeId reference).graph.isA tests .HierarchicalReferences reference

/-- **The condition for removing** a reference that the node declares: it is the one under its hash. The
other node has it back, if it has the hash, and does not keep an answer that it is part of; if it
does not have the hash, nothing is removed from its index by name. What the removal leaves is
settled. -/
structure CanRemoveOwn (s : Navigation) (nodeId : NodeIdText) (reference : ReferenceImpl) : Prop where
  declared : reference ∈ s.graph.own nodeId
  back : HasHash (s.graph.back reference.nodeId) (reference.backward nodeId).hash →
    reference.backward nodeId ∈ s.graph.back reference.nodeId
  index : reference.backward nodeId ∉ s.graph.back reference.nodeId → reference.isForward = false →
    (s.graph.eraseOwn nodeId reference.hash).isA tests .HierarchicalReferences
      (reference.backward nodeId) = true →
    ∀ l, (s.caches reference.nodeId)._childByNameMap = some l →
      s.graph._remove l (reference.backward nodeId) = l
  references : reference.backward nodeId ∈ s.graph.back reference.nodeId →
    reference.nodeId ≠ nodeId →
      (s.caches reference.nodeId)._ref reference.referenceType (!reference.isForward) = none
  children : reference.backward nodeId ∈ s.graph.back reference.nodeId →
    reference.nodeId ≠ nodeId → reference.isForward = false →
      s.graph.isA tests .HasChild (reference.backward nodeId) = true →
        (s.caches reference.nodeId)._children = none
  settled : Settled tests s (s.graph.removeOwnReference nodeId reference) fun c => c = nodeId
  halfway : (s.graph.eraseOwn nodeId reference.hash).isA tests .HierarchicalReferences
      (reference.backward nodeId) =
    (s.graph.removeOwnReference nodeId reference).isA tests .HierarchicalReferences
      (reference.backward nodeId)

/-- **When an operation leaves answers that agree.** -/
def NavigationCondition (s : Navigation) : NavigationOperation → Prop
  | .addReference nodeId reference =>
    (s.graph.findNode nodeId).isSome → ¬ HasHash (s.graph.allReferences nodeId) reference.hash →
      CanAdd tests s nodeId reference
  | .removeReference nodeId reference =>
    (s.graph.findNode reference.nodeId).isSome →
    (HasHash (s.graph.own nodeId) reference.hash → CanRemoveOwn tests s nodeId reference) ∧
    (HasHash (s.graph.back nodeId) reference.hash →
      HasHash (s.graph.own reference.nodeId) (reference.backward nodeId).hash →
        CanRemoveOwn tests s reference.nodeId (reference.backward nodeId))
  | _ => True

/-! ### The caches of one node -/

/-- The classes of the references: which standard types they are subtypes of. -/
abbrev Classes := StandardReferenceType → ReferenceImpl → Bool

/-- The reference is in the index by name. -/
def Listed (χ : Classes) (g : NodeGraph) (q : ReferenceImpl) : Prop :=
  q.isForward = true ∧ χ .HierarchicalReferences q = true ∧ (g.targetName q).isSome = true

instance (χ : Classes) (g : NodeGraph) : DecidablePred (Listed χ g) :=
  fun _ => inferInstanceAs (Decidable (_ ∧ _ ∧ _))

/-- **The caches are right** for the references of the node. -/
structure CacheRight (χ : Classes) (g : NodeGraph) (references : List ReferenceImpl)
    (caches : NodeCaches) : Prop where
  listed : ∀ T f l, caches._ref T f = some l →
    l = references.filter fun q => q.isForward = f ∧ q.referenceType = T
  children : ∀ l, caches._children = some l →
    l = g._asObject (references.filter fun q => q.isForward = true ∧ χ .HasChild q = true)
  nodup : ∀ l, caches._childByNameMap = some l → l.Nodup
  indexed : ∀ l, caches._childByNameMap = some l → ∀ q, q ∈ l ↔ q ∈ references ∧ Listed χ g q

/-- The caches after new references. -/
def gainedCaches (χ : Classes) (g : NodeGraph) (caches : NodeCaches) (gained : List ReferenceImpl) :
    NodeCaches :=
  { caches with
    _ref := fun _ _ => none
    _children := none
    _childByNameMap := caches._childByNameMap.map fun l => l ++ gained.filter fun q => Listed χ g q }

/-- The index by name after a reference is removed. -/
def lostIndex (χ : Classes) (g : NodeGraph) (index : Option (List ReferenceImpl))
    (q : ReferenceImpl) : Option (List ReferenceImpl) :=
  index.map fun l => if q.isForward ∧ χ .HierarchicalReferences q = true then g._remove l q else l

section CacheRight

variable {χ χ' : Classes} {g g' : NodeGraph} {references references' : List ReferenceImpl}
  {caches : NodeCaches} {q : ReferenceImpl}

lemma CacheRight.forget (h : CacheRight χ g references caches) :
    CacheRight χ g references { caches with _ref := fun _ _ => none, _children := none } :=
  ⟨nofun, nofun, h.nodup, h.indexed⟩

lemma CacheRight.classes (h : CacheRight χ g references caches)
    (hchild : caches._children ≠ none → ∀ q ∈ references, χ' .HasChild q = χ .HasChild q)
    (hindex : caches._childByNameMap ≠ none → ∀ q ∈ references,
      χ' .HierarchicalReferences q = χ .HierarchicalReferences q) :
    CacheRight χ' g references caches := by
  refine ⟨h.listed, fun l hl => ?_, h.nodup, fun l hl q => ?_⟩
  · rw [h.children l hl]
    congr 1
    refine filter_congr fun q hq => ?_
    rw [hchild (by rw [hl]; nofun) q hq]
  · rw [h.indexed l hl q]
    refine and_congr_right fun hq => ?_
    rw [Listed, Listed, hindex (by rw [hl]; nofun) q hq]

section

variable (h : g'.attributes = g.attributes)
include h

lemma targetName_congr (q : ReferenceImpl) :
    g'.targetName q = g.targetName q := by rw [targetName_eq, targetName_eq, h]

lemma resolveReferenceNode_congr (q : ReferenceImpl) :
    g'.resolveReferenceNode q = g.resolveReferenceNode q := by
  rw [resolveReferenceNode_eq, resolveReferenceNode_eq, h]

lemma _asObject_congr (references : List ReferenceImpl) :
    g'._asObject references = g._asObject references :=
  List.filterMap_congr fun q _ => resolveReferenceNode_congr h q

end

lemma CacheRight.graph (h : CacheRight χ g references caches) (hg : g'.attributes = g.attributes) :
    CacheRight χ g' references caches := by
  refine ⟨h.listed, fun l hl => ?_, h.nodup, fun l hl q => ?_⟩
  · rw [_asObject_congr hg, ← h.children l hl]
  · rw [h.indexed l hl q, Listed, Listed, targetName_congr hg]

/-- What `_add` does to the index by name. -/
lemma _add_eq (l : List ReferenceImpl) :
    (if q.isForward ∧ χ .HierarchicalReferences q = true then g._add l q else l) =
      l ++ [q].filter fun x => Listed χ g x := by
  by_cases hlisted : Listed χ g q
  · have hfilt : ([q].filter fun x => Listed χ g x) = [q] := by simp [hlisted]
    rw [hfilt, if_pos ⟨hlisted.1, hlisted.2.1⟩, _add, if_pos hlisted.2.2]
  · have hfilt : ([q].filter fun x => Listed χ g x) = [] := by simp [hlisted]
    rw [hfilt, append_nil]
    split_ifs with hclass
    · rw [_add, if_neg fun hname => hlisted ⟨hclass.1, hclass.2, hname⟩]
    · rfl

lemma gainedCaches_append (gained more : List ReferenceImpl) :
    gainedCaches χ g (gainedCaches χ g caches gained) more =
      gainedCaches χ g caches (gained ++ more) := by
  unfold gainedCaches
  cases caches._childByNameMap <;> simp

/-- **References are new**: they are appended to the index by name. -/
lemma CacheRight.gain (h : CacheRight χ g references caches) {gained : List ReferenceImpl}
    (hnodup : (references ++ gained).Nodup)
    (hmem : ∀ x, x ∈ references' ↔ x ∈ references ∨ x ∈ gained) :
    CacheRight χ g references' (gainedCaches χ g caches gained) := by
  obtain ⟨-, hgained, hdisjoint⟩ := List.nodup_append'.mp hnodup
  refine ⟨nofun, nofun, fun l hl => ?_, fun l hl x => ?_⟩
  · obtain ⟨l, hl', rfl⟩ := Option.map_eq_some_iff.mp hl
    refine List.nodup_append'.mpr ⟨h.nodup l hl', hgained.filter _, fun x hx hx' => ?_⟩
    exact hdisjoint ((h.indexed l hl' x).mp hx).1 (List.mem_filter.mp hx').1
  · obtain ⟨l, hl', rfl⟩ := Option.map_eq_some_iff.mp hl
    rw [List.mem_append, mem_filter, decide_eq_true_eq, h.indexed l hl' x, hmem, or_and_right]

/-- What `_remove` does when the reference is in the index as far as its class and its target say. -/
lemma _remove_eq {l : List ReferenceImpl}
    (hq : (g.targetName q).isSome = true → q ∈ l) (hnone : ∀ x ∈ l, (g.targetName x).isSome = true) :
    g._remove l q = l.filter fun x => x ≠ q := by
  unfold _remove
  cases hname : g.targetName q with
  | none =>
    refine (List.filter_eq_self.mpr fun x hx => ?_).symm
    rw [decide_eq_true_eq]
    rintro rfl
    have hsome := hnone x hx
    rw [hname] at hsome
    cases hsome
  | some name =>
    dsimp only
    split_ifs with hlen
    · rfl
    · refine filter_congr fun x hx => ?_
      rw [decide_eq_decide, not_iff_not]
      constructor
      · -- the only reference under the name is the one that is removed
        intro hx'
        have hfilt : ∀ y ∈ l, g.targetName y = some name →
            y ∈ l.filter fun r => g.targetName r = some name := fun y hy hn =>
          List.mem_filter.mpr ⟨hy, decide_eq_true hn⟩
        have h1 := hfilt x hx hx'
        have h2 := hfilt q (hq (by rw [hname]; rfl)) hname
        match hl : l.filter fun r => g.targetName r = some name with
        | [] => rw [hl] at h1; cases h1
        | [y] =>
          rw [hl, List.mem_singleton] at h1 h2
          rw [h1, h2]
        | _ :: _ :: _ =>
          rw [hl] at hlen
          exact absurd (by simp) hlen
      · rintro rfl
        exact hname

lemma CacheRight.lostIndex_eq (h : CacheRight χ g references caches) (hq : q ∈ references) :
    lostIndex χ g caches._childByNameMap q =
      caches._childByNameMap.map fun l => l.filter fun x => x ≠ q := by
  refine Option.map_congr fun l hl => ?_
  split_ifs with hclass
  · exact _remove_eq (fun hname => (h.indexed l hl q).mpr ⟨hq, hclass.1, hclass.2, hname⟩)
      fun x hx => ((h.indexed l hl x).mp hx).2.2.2
  · refine (List.filter_eq_self.mpr fun x hx => ?_).symm
    rw [decide_eq_true_eq]
    rintro rfl
    have hin := (h.indexed l hl x).mp hx
    exact hclass ⟨hin.2.1, hin.2.2.1⟩

/-- **References are gone**: none of the lists that are kept has them. -/
lemma CacheRight.lose (h : CacheRight χ g references caches) (lost : List ReferenceImpl)
    (hlisted : ∀ q ∈ lost, caches._ref q.referenceType q.isForward = none)
    (hchild : ∀ q ∈ lost, q.isForward = true → χ .HasChild q = true → caches._children = none) :
    CacheRight χ g (references.filter fun x => x ∉ lost)
      { caches with _childByNameMap :=
          caches._childByNameMap.map fun l => l.filter fun x => x ∉ lost } := by
  refine ⟨fun T f l hl => ?_, fun l hl => ?_, fun l hl => ?_, fun l hl x => ?_⟩
  · rw [h.listed T f l hl, filter_filter]
    refine filter_congr fun x _ => ?_
    by_cases hx : x ∈ lost
    · have hne : ¬ (x.isForward = f ∧ x.referenceType = T) := by
        rintro ⟨rfl, rfl⟩
        rw [hlisted x hx] at hl
        cases hl
      simp [hne]
    · simp [hx]
  · rw [h.children l hl, filter_filter]
    congr 1
    refine filter_congr fun x _ => ?_
    by_cases hx : x ∈ lost
    · have hne : ¬ (x.isForward = true ∧ χ .HasChild x = true) := by
        rintro ⟨hfwd, hclass⟩
        rw [hchild x hx hfwd hclass] at hl
        cases hl
      simp [hne]
    · simp [hx]
  · obtain ⟨l, hl', rfl⟩ := Option.map_eq_some_iff.mp hl
    exact (h.nodup l hl').filter _
  · obtain ⟨l, hl', rfl⟩ := Option.map_eq_some_iff.mp hl
    rw [mem_filter, mem_filter, decide_eq_true_eq, h.indexed l hl' x]
    tauto

end CacheRight

/-! ### The invariant -/

/-- **The invariant of a node**: its caches are right, and its references are navigable and told apart. -/
structure NodeRight (s : Navigation) (nodeId : NodeIdText) : Prop where
  cache : CacheRight (s.graph.isA tests) s.graph (s.graph.allReferences nodeId) (s.caches nodeId)
  navigable : Navigable tests s.graph nodeId (s.caches nodeId)._childByNameMap
    (s.caches nodeId)._parent
  distinct : ((s.graph.allReferences nodeId).map hash).Nodup

/-- **The invariant.** -/
def Right (s : Navigation) : Prop := ∀ nodeId, s.NodeRight tests nodeId

section Queries

variable {tests} {s : Navigation}

lemma _get_HierarchicalReference_fst (s : Navigation) (nodeId : NodeIdText) :
    (s._get_HierarchicalReference tests nodeId).1 =
      (s.caches nodeId)._childByNameMap.getD (s.graph.hierarchicalReferences tests nodeId) := by
  unfold _get_HierarchicalReference
  cases (s.caches nodeId)._childByNameMap <;> rfl

variable {nodeId : NodeIdText}

lemma mem_hierarchicalReferences {g : NodeGraph} {q : ReferenceImpl} :
    q ∈ g.hierarchicalReferences tests nodeId ↔ q ∈ g.allReferences nodeId ∧ q.isForward = true ∧
      g.isA tests .HierarchicalReferences q = true ∧ (g.targetName q).isSome = true := by
  simp only [hierarchicalReferences, referencesOf, mem_filter, decide_eq_true_eq, and_assoc]

lemma NodeRight.mem_index (h : s.NodeRight tests nodeId) (q : ReferenceImpl) :
    q ∈ (s._get_HierarchicalReference tests nodeId).1 ↔
      q ∈ s.graph.allReferences nodeId ∧ q.isForward = true ∧
        s.graph.isA tests .HierarchicalReferences q = true ∧ (s.graph.targetName q).isSome = true := by
  rw [_get_HierarchicalReference_fst]
  cases hindex : (s.caches nodeId)._childByNameMap with
  | none => exact mem_hierarchicalReferences
  | some l => exact h.cache.indexed l hindex q

lemma getChildren_fst (h : s.NodeRight tests nodeId) :
    (s.getChildren tests nodeId).1 = s.graph.children tests nodeId := by
  unfold getChildren
  split
  · next l hl => exact h.cache.children l hl
  · rfl

lemma parent_fst (s : Navigation) (nodeId : NodeIdText) :
    (s.parent tests nodeId).1 =
      (s.caches nodeId)._parent.getD (s.graph._setup_parent_item tests nodeId) := by
  unfold parent
  split
  · next h => rw [h]; rfl
  · next h => rw [h]; rfl

lemma Navigable.parentAnswer {g : NodeGraph}
    {index : Option (List ReferenceImpl)} {parent : Option (Option NodeIdText)}
    (h : Navigable tests g nodeId index parent) :
    ParentAnswer tests g nodeId (parent.getD (g._setup_parent_item tests nodeId)) := by
  have hnull : (parent = some none ∨ (parent = none ∧ g.own nodeId = [])) →
      ParentAnswer tests g nodeId none := by
    intro hcase
    by_cases hpar : ∃ q ∈ g.allReferences nodeId, IsAggregated tests g q
    · obtain ⟨q, hq, haggr⟩ := hpar
      obtain ⟨r, hr, haggr, hresol⟩ := h.null hcase q hq haggr
      exact Or.inl ⟨r, hr, haggr, hresol.symm⟩
    · exact Or.inr ⟨rfl, fun q hq haggr => hpar ⟨q, hq, haggr⟩⟩
  match hpar : parent with
  | some (some p) =>
    obtain ⟨q, hq, haggr, hresol⟩ := h.kept p rfl
    exact Or.inl ⟨q, hq, haggr, hresol.symm⟩
  | some none => exact hnull (Or.inl rfl)
  | none =>
    rw [getD_none, _setup_parent_item]
    split_ifs with hown
    · exact hnull (Or.inr ⟨rfl, List.isEmpty_iff.mp hown⟩)
    · have hmem : ∀ q, q ∈ g.referencesOf tests nodeId .Aggregates false ↔
          q ∈ g.allReferences nodeId ∧ IsAggregated tests g q := fun q => by
        rw [referencesOf, mem_filter, decide_eq_true_eq, IsAggregated]
      match hlist : g.referencesOf tests nodeId .Aggregates false with
      | [] =>
        refine Or.inr ⟨rfl, fun q hq haggr => ?_⟩
        have hin := (hmem q).mpr ⟨hq, haggr⟩
        rw [hlist] at hin
        cases hin
      | q :: rest =>
        obtain ⟨hq, haggr⟩ := (hmem q).mp (by rw [hlist]; exact List.mem_cons_self)
        exact Or.inl ⟨q, hq, haggr, rfl⟩

lemma IsChildNamed.mem_select {nodeId child : NodeIdText} {name : String}
    {namespaceIndex : Option UInt16} (h : s.NodeRight tests nodeId)
    (hnamed : IsChildNamed tests s.graph nodeId name namespaceIndex child) :
    ∃ q ∈ s.graph._select_by_browse_name (s._get_HierarchicalReference tests nodeId).1 name
      namespaceIndex, s.graph.isA tests .HasChild q = true := by
  obtain ⟨q, hq, hfwd, hchild, -, hname, hnamespace⟩ := hnamed
  refine ⟨q, List.mem_filter.mpr ⟨(h.mem_index q).mpr ⟨hq, hfwd,
    h.navigable.hierarchical q hq hfwd hchild, by rw [hname]; rfl⟩,
    decide_eq_true ⟨hname, hnamespace⟩⟩, hchild⟩

/-- **The invariant gives the answers.** -/
theorem Right.agrees (h : s.Right tests) : s.Agrees tests := by
  have hrefs : ∀ nodeId T f, s.graph.isReferenceType T = true →
      (s.findReferences nodeId T f).1 = s.graph.findReferences_no_cache nodeId T f := by
    intro nodeId T f hT
    unfold findReferences
    rw [if_pos hT]
    split
    · next l hl => exact (h nodeId).cache.listed T f l hl
    · rfl
  have hfirst : ∀ nodeId name namespaceIndex, ∀ q ∈ (s.graph._select_by_browse_name
      (s._get_HierarchicalReference tests nodeId).1 name namespaceIndex).head?,
      (∃ p ∈ s.graph._select_by_browse_name (s._get_HierarchicalReference tests nodeId).1 name
        namespaceIndex, s.graph.isA tests .HasChild p = true) →
        s.graph.isA tests .HasChild q = true := by
    intro nodeId name namespaceIndex
    rw [_get_HierarchicalReference_fst]
    exact (h nodeId).navigable.named name namespaceIndex
  refine ⟨hrefs, fun nodeId T f hT => ?_, fun nodeId name namespaceIndex child hchild => ?_,
    fun nodeId name namespaceIndex hnone child hnamed => ?_, fun nodeId child => ?_, fun nodeId => ?_,
    fun nodeId => ?_⟩
  · rw [findReferencesAsObject, hrefs nodeId T f hT]
  · simp only [getChildByName] at hchild
    split at hchild
    · cases hchild
    · next q rest hselect =>
      split_ifs at hchild with hclass
      have hmem : q ∈ s.graph._select_by_browse_name
          (s._get_HierarchicalReference tests nodeId).1 name namespaceIndex := by
        rw [hselect]
        exact List.mem_cons_self
      obtain ⟨hindex, hname⟩ := List.mem_filter.mp hmem
      rw [decide_eq_true_eq] at hname
      obtain ⟨hq, hfwd, -, -⟩ := ((h nodeId).mem_index q).mp hindex
      exact ⟨q, hq, hfwd, hclass, hchild, hname.1, hname.2⟩
  · obtain ⟨p, hp, hclass⟩ := hnamed.mem_select (h nodeId)
    simp only [getChildByName] at hnone
    split at hnone
    · next hselect =>
      rw [hselect] at hp
      cases hp
    · next q rest hselect =>
      have hq := hfirst nodeId name namespaceIndex q (by rw [hselect]; rfl) ⟨p, hp, hclass⟩
      rw [if_pos hq] at hnone
      have hmem : q ∈ s.graph._select_by_browse_name
          (s._get_HierarchicalReference tests nodeId).1 name namespaceIndex := by
        rw [hselect]
        exact List.mem_cons_self
      have hsome := (((h nodeId).mem_index q).mp (List.mem_filter.mp hmem).1).2.2.2
      rw [targetName_eq, Option.isSome_map] at hsome
      have hresol : (s.graph.resolveReferenceNode q).isSome = true := by
        rw [resolveReferenceNode_eq, Option.isSome_map]
        exact hsome
      rw [show s.graph.resolveReferenceNode q = none from hnone] at hresol
      cases hresol
  · rw [getChildren_fst (h nodeId)]
    simp only [NodeGraph.children, _asObject, List.mem_filterMap, referencesOf, mem_filter,
      decide_eq_true_eq, IsChild, and_assoc]
  · rw [getChildren_fst (h nodeId)]
    exact (h nodeId).navigable.once
  · rw [parent_fst]
    exact (h nodeId).navigable.parentAnswer

lemma Right.setCaches (h : s.Right tests) {nodeId : NodeIdText} {caches : NodeCaches}
    (hcache : CacheRight (s.graph.isA tests) s.graph (s.graph.allReferences nodeId) caches)
    (hnav : Navigable tests s.graph nodeId caches._childByNameMap caches._parent) :
    (s.setCaches nodeId caches).Right tests := by
  intro c
  by_cases hc : c = nodeId
  · subst hc
    refine ⟨?_, ?_, (h c).distinct⟩
    · simpa only [Navigation.setCaches, update_self] using hcache
    · simpa only [Navigation.setCaches, update_self] using hnav
  · refine ⟨?_, ?_, (h c).distinct⟩
    · simpa only [Navigation.setCaches, Function.update_of_ne hc] using (h c).cache
    · simpa only [Navigation.setCaches, Function.update_of_ne hc] using (h c).navigable

lemma findReferences_right (h : s.Right tests) (nodeId T : NodeIdText) (f : Bool) :
    (s.findReferences nodeId T f).2.Right tests := by
  unfold findReferences
  split_ifs
  · split
    · exact h
    · refine h.setCaches ⟨fun T' f' l hl => ?_, (h nodeId).cache.children, (h nodeId).cache.nodup,
        (h nodeId).cache.indexed⟩ (h nodeId).navigable
      dsimp only at hl
      split_ifs at hl with hsame
      · obtain rfl := Option.some.inj hl
        rw [hsame.1, hsame.2]
        rfl
      · exact (h nodeId).cache.listed T' f' l hl
  · exact h

lemma getChildren_right (h : s.Right tests) (nodeId : NodeIdText) :
    (s.getChildren tests nodeId).2.Right tests := by
  unfold getChildren
  split
  · exact h
  · exact h.setCaches ⟨(h nodeId).cache.listed, fun l hl => (Option.some.inj hl).symm,
      (h nodeId).cache.nodup, (h nodeId).cache.indexed⟩ (h nodeId).navigable

lemma NodeRight.nodup (h : s.NodeRight tests nodeId) :
    (s.graph.allReferences nodeId).Nodup := of_map _ h.distinct

section

variable (h : s.Right tests) (nodeId : NodeIdText)
include h

lemma _get_HierarchicalReference_right :
    (s._get_HierarchicalReference tests nodeId).2.Right tests := by
  unfold _get_HierarchicalReference
  split
  · exact h
  · next hnone =>
    refine h.setCaches ⟨(h nodeId).cache.listed, (h nodeId).cache.children, fun l hl => ?_,
      fun l hl q => ?_⟩ ?_
    · obtain rfl := Option.some.inj hl
      exact ((h nodeId).nodup.filter _).filter _
    · obtain rfl := Option.some.inj hl
      exact mem_hierarchicalReferences
    · have hnav := (h nodeId).navigable
      rw [hnone] at hnav
      exact { hnav with }

lemma getChildByName_right (name : String) (namespaceIndex : Option UInt16) :
    (s.getChildByName tests nodeId name namespaceIndex).2.Right tests := by
  have hright := _get_HierarchicalReference_right h nodeId
  simp only [getChildByName]
  split
  · exact hright
  · split_ifs <;> exact hright

lemma parent_right :
    (s.parent tests nodeId).2.Right tests := by
  unfold parent
  split
  · exact h
  · next hnone =>
    refine h.setCaches ⟨(h nodeId).cache.listed, (h nodeId).cache.children, (h nodeId).cache.nodup,
      (h nodeId).cache.indexed⟩ ?_
    have hnav := (h nodeId).navigable
    have hans := hnav.parentAnswer
    rw [hnone, getD_none] at hans
    refine ⟨hnav.once, hnav.hierarchical, hnav.named, fun p hp => ?_,
      fun hcase q hq haggr => ?_⟩
    · rw [Option.some.inj hp] at hans
      obtain ⟨q, hq, haggr, hresol⟩ := hans.resolve_right fun hnull => nomatch hnull.1
      exact ⟨q, hq, haggr, hresol.symm⟩
    · have hnull := Option.some.inj (hcase.resolve_right fun hcase => nomatch hcase.1)
      rw [hnull] at hans
      obtain ⟨r, hr, haggr', hresol⟩ := hans.resolve_right fun hno =>
        hno.2 q hq haggr
      exact ⟨r, hr, haggr', hresol.symm⟩

end

lemma _handle_add_reference_change_event_right (h : s.Right tests) (nodeId nodeId2 : NodeIdText) :
    (s._handle_add_reference_change_event tests nodeId nodeId2).Right tests := by
  unfold _handle_add_reference_change_event
  split
  · exact h
  · have hfirst := getChildByName_right h nodeId "NodeVersion" (some 0)
    split
    · next hquery =>
      rw [getNodeVersion] at hquery
      rw [hquery] at hfirst
      exact hfirst
    · next t hquery =>
      rw [getNodeVersion] at hquery
      rw [hquery] at hfirst
      exact getChildByName_right hfirst nodeId2 "NodeVersion" (some 0)

end Queries

/-! ### Mutations -/

section Forgotten

variable {tests}

lemma forgotten_right {s : Navigation} (h : s.Right tests) {g : NodeGraph} {f : NodeIdText → Prop}
    (hset : Settled tests s g f) (hattrs : g.attributes = s.graph.attributes)
    (c : NodeIdText) :
    CacheRight (g.isA tests) g (s.graph.allReferences c)
      { s.caches c with _ref := fun _ _ => none, _children := none } :=
  ((h c).cache.forget.classes (fun hkept => absurd rfl hkept) (hset.indexed c)).graph hattrs

end Forgotten

/-! ### Adding -/

section Gained

variable {tests} {s t : Navigation}

/-- **What an addition does**: the nodes declare more references, and more are propagated to them. -/
structure Gained (tests : SubtypeTests) (s t : Navigation)
    (declared propagated : NodeIdText → List ReferenceImpl) : Prop where
  attributes : t.graph.attributes = s.graph.attributes
  own : ∀ c, t.graph.own c = s.graph.own c ++ declared c
  back : ∀ c, t.graph.back c = s.graph.back c ++ propagated c
  distinct : ∀ c, ((t.graph.allReferences c).map hash).Nodup
  kept : ∀ c, declared c ++ propagated c = [] → t.caches c = s.caches c
  caches : ∀ c, declared c ++ propagated c ≠ [] → t.caches c =
    gainedCaches (t.graph.isA tests) t.graph (s.caches c) (declared c ++ propagated c)

variable {declared propagated : NodeIdText → List ReferenceImpl}

section

variable (hgained : Gained tests s t declared propagated) (c : NodeIdText)
include hgained c

lemma Gained.perm :
    (t.graph.allReferences c).Perm (s.graph.allReferences c ++ (declared c ++ propagated c)) := by
  rw [NodeGraph.allReferences, NodeGraph.allReferences, hgained.own, hgained.back, append_assoc,
    append_assoc]
  refine List.Perm.append_left _ ?_
  rw [← append_assoc, ← append_assoc]
  exact List.Perm.append_right _ List.perm_append_comm

lemma Gained.nodup :
    (s.graph.allReferences c ++ (declared c ++ propagated c)).Nodup :=
  (hgained.perm c).nodup_iff.mp (of_map _ (hgained.distinct c))

lemma Gained.filter_new :
    ((t.graph.allReferences c).filter fun q => q ∉ s.graph.allReferences c) =
      declared c ++ propagated c := by
  obtain ⟨-, -, hdisjoint⟩ := List.nodup_append'.mp (hgained.nodup c)
  have hold : ∀ l : List ReferenceImpl, l ⊆ s.graph.allReferences c →
      (l.filter fun q => q ∉ s.graph.allReferences c) = [] := fun l hl => by
    rw [List.filter_eq_nil_iff]
    intro q hq
    simpa using hl hq
  have hnew : ∀ l : List ReferenceImpl, l ⊆ declared c ++ propagated c →
      (l.filter fun q => q ∉ s.graph.allReferences c) = l := fun l hl => by
    rw [List.filter_eq_self]
    intro q hq
    simpa using fun hmem => hdisjoint hmem (hl hq)
  have hall : t.graph.allReferences c =
      (s.graph.own c ++ declared c) ++ (s.graph.back c ++ propagated c) := by
    rw [NodeGraph.allReferences, hgained.own, hgained.back]
  rw [hall, filter_append, filter_append, filter_append, hold (s.graph.own c) (List.subset_append_left _ _),
    hold (s.graph.back c) (List.subset_append_right _ _),
    hnew (declared c) (List.subset_append_left _ _),
    hnew (propagated c) (List.subset_append_right _ _), List.nil_append, List.nil_append]

end

lemma hierarchicalReferences_eq (g : NodeGraph) (nodeId : NodeIdText) :
    g.hierarchicalReferences tests nodeId =
      (g.allReferences nodeId).filter fun q => Listed (g.isA tests) g q := by
  rw [hierarchicalReferences, referencesOf, filter_filter]
  refine filter_congr fun q _ => ?_
  rw [Bool.eq_iff_iff, Bool.and_eq_true, decide_eq_true_eq, decide_eq_true_eq, Listed]
  tauto

lemma Gained.patched_eq (hgained : Gained tests s t declared propagated) (h : s.Right tests)
    (c : NodeIdText) : patched tests s.graph t.graph c (s.caches c)._childByNameMap =
      (t.caches c)._childByNameMap := by
  have hindex : (t.caches c)._childByNameMap = (s.caches c)._childByNameMap.map fun l =>
      l ++ (declared c ++ propagated c).filter fun q => Listed (t.graph.isA tests) t.graph q := by
    by_cases hnone : declared c ++ propagated c = []
    · rw [hgained.kept c hnone, hnone]
      simp
    · rw [hgained.caches c hnone]
      rfl
  rw [hindex, patched]
  refine Option.map_congr fun l hl => ?_
  congr 1
  · rw [List.filter_eq_self]
    intro q hq
    rw [decide_eq_true_eq, (hgained.perm c).mem_iff]
    exact List.mem_append_left _ (((h c).cache.indexed l hl q).mp hq).1
  · rw [hierarchicalReferences_eq, List.filter_comm, hgained.filter_new c]

/-- **An addition keeps the invariant** when what it leaves is settled. -/
theorem Gained.right (hgained : Gained tests s t declared propagated) (h : s.Right tests)
    (hset : Settled tests s t.graph fun c =>
      t.graph.allReferences c ≠ s.graph.allReferences c) : t.Right tests := by
  intro c
  have hnav := hset.navigable c
  rw [hgained.patched_eq h c] at hnav
  refine ⟨?_, ?_, hgained.distinct c⟩
  · by_cases hnone : declared c ++ propagated c = []
    · have hsame : t.graph.allReferences c = s.graph.allReferences c := by
        obtain ⟨hdecl, hpropagated⟩ := List.append_eq_nil_iff.mp hnone
        rw [NodeGraph.allReferences, hgained.own, hgained.back, hdecl, hpropagated,
          append_nil, append_nil, NodeGraph.allReferences]
      rw [hgained.kept c hnone, hsame]
      exact ((h c).cache.classes (hset.children c (not_not.mpr hsame))
        (hset.indexed c)).graph hgained.attributes
    · rw [hgained.caches c hnone]
      exact (forgotten_right h hset hgained.attributes c).gain (hgained.nodup c) fun x => by
        rw [(hgained.perm c).mem_iff, List.mem_append]
  · have hpar : (t.caches c)._parent = (s.caches c)._parent := by
      by_cases hnone : declared c ++ propagated c = []
      · rw [hgained.kept c hnone]
      · rw [hgained.caches c hnone]
        rfl
    rw [hpar]
    exact hnav

lemma clearCache_handle_HierarchicalReference (s : Navigation) (c : NodeIdText) (q : ReferenceImpl) :
    (s._handle_HierarchicalReference tests c q).clearCache c =
      s.setCaches c (gainedCaches (s.graph.isA tests) s.graph (s.caches c) [q]) := by
  unfold _handle_HierarchicalReference gainedCaches
  cases hindex : (s.caches c)._childByNameMap with
  | none => simp [clearCache, Navigation.setCaches, hindex]
  | some l =>
    rw [map_some, ← _add_eq]
    split_ifs
    · simp [clearCache, Navigation.setCaches]
    · simp [clearCache, Navigation.setCaches, hindex]

/-- **What a propagation does** to the other node: nothing, or it has the reference back. -/
lemma _propagate_ref_gained (s : Navigation) (a : NodeIdText) (r : ReferenceImpl) :
    s._propagate_ref tests a r = s ∨
      ∃ g, s.graph.Appended g r.nodeId (r.backward a) ∧
        ¬ HasHash (s.graph.allReferences r.nodeId) (r.backward a).hash ∧
        s._propagate_ref tests a r = setCaches ⟨g, s.caches⟩ r.nodeId
          (gainedCaches (g.isA tests) g (s.caches r.nodeId) [r.backward a]) := by
  unfold _propagate_ref
  split
  · exact Or.inl rfl
  · split_ifs
    · exact Or.inl rfl
    · split
      · exact Or.inl rfl
      · next relatedNode hrel =>
        unfold _add_backward_reference
        split_ifs with hown hback
        · exact Or.inl rfl
        · exact Or.inl rfl
        · refine Or.inr ⟨_, appended_setNode hrel _, ?_, ?_⟩
          · rw [hasHash_allReferences, not_or]
            exact ⟨mt (hasReference_iff hrel _).mpr hown,
              mt (hasBackReference_iff hrel _).mpr hback⟩
          · rw [clearCache_handle_HierarchicalReference]
            unfold NodeGraph._add_backward_reference
            rw [if_neg hown, if_neg hback]

variable {a : NodeIdText} {r : ReferenceImpl} {g : NodeGraph}

lemma gained_of_declared (h : s.Right tests) (hdecl : s.graph.Declared g a r)
    (hfresh : ¬ HasHash (s.graph.allReferences a) r.hash) :
    Gained tests s
      (setCaches ⟨g, s.caches⟩ a (gainedCaches (g.isA tests) g (s.caches a) [r]))
      (fun c => if c = a then [r] else []) fun _ => [] := by
  refine ⟨hdecl.attributes, fun c => ?_, fun c => ?_,
    hdecl.distinct hfresh fun c => (h c).distinct, fun c hnone => ?_, fun c hsome => ?_⟩
  · rw [graph_setCaches, hdecl.own]
    split_ifs with hc
    · rfl
    · rw [append_nil]
  · rw [graph_setCaches, hdecl.back, append_nil]
  · have hc : c ≠ a := by
      rintro rfl
      simp at hnone
    exact caches_setCaches_of_ne _ _ hc
  · have hc : c = a := by
      by_contra hc
      simp [hc] at hsome
    subst hc
    simp

lemma gainedCaches_congr {χ χ' : Classes} {g g' : NodeGraph} {q : ReferenceImpl}
    (hattrs : g'.attributes = g.attributes)
    (hclass : χ .HierarchicalReferences q = χ' .HierarchicalReferences q) (caches : NodeCaches) :
    gainedCaches χ g caches [q] = gainedCaches χ' g' caches [q] := by
  have hlisted : Listed χ g q ↔ Listed χ' g' q := by
    rw [Listed, Listed, targetName_congr hattrs, hclass]
  unfold gainedCaches
  rw [List.filter_singleton, List.filter_singleton, decide_eq_decide.mpr hlisted]

lemma gained_of_appended (h : s.Right tests) (hdecl : s.graph.Declared g a r)
    (hfresh : ¬ HasHash (s.graph.allReferences a) r.hash) {g' : NodeGraph} {b : NodeIdText}
    {q : ReferenceImpl} (happ : g.Appended g' b q)
    (hfresh' : ¬ HasHash (g.allReferences b) q.hash)
    (hhalfway : g.isA tests .HierarchicalReferences r = g'.isA tests .HierarchicalReferences r) :
    let u := setCaches ⟨g, s.caches⟩ a (gainedCaches (g.isA tests) g (s.caches a) [r])
    Gained tests s
      (setCaches ⟨g', u.caches⟩ b (gainedCaches (g'.isA tests) g' (u.caches b) [q]))
      (fun c => if c = a then [r] else []) fun c => if c = b then [q] else [] := by
  intro u
  have hu := gained_of_declared h hdecl hfresh
  refine ⟨happ.attributes.trans hdecl.attributes, fun c => ?_, fun c => ?_,
    happ.distinct hfresh' hu.distinct, fun c hnone => ?_, fun c hsome => ?_⟩
  · exact (happ.own c).trans (hu.own c)
  · rw [graph_setCaches, happ.back, hdecl.back]
    split_ifs with hc
    · rfl
    · rw [append_nil]
  · obtain ⟨hdecl, hpropagated⟩ := List.append_eq_nil_iff.mp hnone
    have hc : c ≠ b := by
      rintro rfl
      simp at hpropagated
    rw [caches_setCaches_of_ne _ _ hc]
    exact hu.kept c (by rw [hdecl]; rfl)
  · have hcongr := gainedCaches_congr happ.attributes hhalfway (s.caches a)
    by_cases hc : c = b
    · subst hc
      rw [caches_setCaches_self, graph_setCaches, if_pos rfl, ← gainedCaches_append]
      by_cases ha : c = a
      · subst ha
        rw [if_pos rfl, ← hcongr, caches_setCaches_self]
      · rw [if_neg ha, gainedCaches_append, List.nil_append, caches_setCaches_of_ne _ _ ha]
    · have ha : c = a := by
        by_contra ha
        simp [ha, hc] at hsome
      subst ha
      rw [caches_setCaches_of_ne _ _ hc, caches_setCaches_self, graph_setCaches, if_pos rfl,
        if_neg hc, append_nil]
      exact hcongr

/-- The nodes when the first half of an addition is done. -/
def declaredState (tests : SubtypeTests) (s : Navigation) (g : NodeGraph) (a : NodeIdText)
    (r : ReferenceImpl) : Navigation :=
  setCaches ⟨g, s.caches⟩ a (gainedCaches (g.isA tests) g (s.caches a) [r])

lemma declaredState_right (h : s.Right tests) (hdecl : s.graph.Declared g a r)
    (hfresh : ¬ HasHash (s.graph.allReferences a) r.hash) (hadd : s.CanAdd tests a r)
    (ht : t = declaredState tests s g a r ∨ t = (declaredState tests s g a r)._propagate_ref tests a r)
    (hgraph : t.graph = (s.graph.addReference a r).graph) : t.Right tests := by
  obtain ⟨hset, hhalfway⟩ := hadd
  have hclass := hhalfway g hdecl
  rw [← hgraph] at hset hclass
  have hgained := gained_of_declared h hdecl hfresh
  rcases ht with rfl | rfl
  · exact hgained.right h hset
  · rcases (declaredState tests s g a r)._propagate_ref_gained a r with
      hsame | ⟨g', happ, hfresh', heq⟩
    · rw [hsame] at hset ⊢
      exact hgained.right h hset
    · rw [heq] at hset hclass ⊢
      exact (gained_of_appended h hdecl hfresh happ hfresh' hclass).right h hset

/-- **An addition** under its condition keeps the invariant.

**Proof sketch.** The reference is refused, or the node declares it; then it is propagated or not. The
event of the change has queries only. -/
theorem addReference_right (h : s.Right tests)
    (hadd : (s.graph.findNode a).isSome → ¬ HasHash (s.graph.allReferences a) r.hash →
      s.CanAdd tests a r) : (s.addReference tests a r).Right tests := by
  have hgraph := @graph_addReference tests s a r
  unfold addReference at hgraph ⊢
  cases hnode : s.graph.findNode a with
  | none => exact h
  | some node =>
    rw [hnode] at hgraph
    dsimp only at hgraph ⊢
    cases hok : node.__addReference r with
    | error error => exact h
    | ok node' =>
      rw [hok] at hgraph
      obtain ⟨hfresh, hdecl⟩ := addReference_eq_ok hnode hok
      have hright := fun t => declaredState_right (t := t) h hdecl hfresh
        (hadd (by rw [hnode]; rfl) hfresh)
      simp only [clearCache_handle_HierarchicalReference, graph_setCaches] at hgraph ⊢
      cases hfound : (s.graph.setNode a (some node')).findReferenceType r.referenceType with
      | none =>
        rw [hfound] at hgraph
        exact hright _ (Or.inl rfl) hgraph
      | some referenceType =>
        rw [hfound] at hgraph
        cases hthrow : ((s.graph.setNode a (some node'))._propagate_ref a r).thrown with
        | none =>
          rw [hthrow] at hgraph
          rw [graph_handle_add_reference_change_event] at hgraph
          exact _handle_add_reference_change_event_right (hright _ (Or.inr rfl) hgraph) a r.nodeId
        | some error =>
          rw [hthrow] at hgraph
          exact hright _ (Or.inr rfl) hgraph

end Gained

/-! ### Removing -/

section Lost

variable {tests} {s t : Navigation}

/-- The caches when references are gone from the index by name. -/
def lostCaches (caches : NodeCaches) (lost : List ReferenceImpl) : NodeCaches :=
  { caches with _childByNameMap :=
      caches._childByNameMap.map fun l => l.filter fun x => x ∉ lost }

/-- **What a removal does**: references are gone, and one node forgets its lists. -/
structure Lost (s t : Navigation) (forgotten : NodeIdText)
    (lost : NodeIdText → List ReferenceImpl) : Prop where
  attributes : t.graph.attributes = s.graph.attributes
  references : ∀ c, t.graph.allReferences c = (s.graph.allReferences c).filter fun q => q ∉ lost c
  had : ∀ c, lost c ⊆ s.graph.allReferences c
  caches : ∀ c, t.caches c = lostCaches
    (if c = forgotten then { s.caches c with _ref := fun _ _ => none, _children := none }
      else s.caches c) (lost c)

variable {forgotten : NodeIdText} {lost : NodeIdText → List ReferenceImpl}

lemma Lost.patched_eq (hlost : Lost s t forgotten lost) (h : s.Right tests) (c : NodeIdText) :
    patched tests s.graph t.graph c (s.caches c)._childByNameMap =
      (t.caches c)._childByNameMap := by
  have hindex : (t.caches c)._childByNameMap = (s.caches c)._childByNameMap.map fun l =>
      l.filter fun x => x ∉ lost c := by
    rw [hlost.caches c]
    split_ifs <;> rfl
  rw [hindex, patched]
  refine Option.map_congr fun l hl => ?_
  have hnew : ((t.graph.hierarchicalReferences tests c).filter fun q =>
      q ∉ s.graph.allReferences c) = [] := by
    rw [List.filter_eq_nil_iff]
    intro q hq
    have hq := (mem_hierarchicalReferences.mp hq).1
    rw [hlost.references] at hq
    simpa using (List.mem_filter.mp hq).1
  rw [hnew, append_nil]
  refine filter_congr fun q hq => ?_
  rw [decide_eq_decide, hlost.references, mem_filter, decide_eq_true_eq]
  exact and_iff_right ((h c).cache.indexed l hl q |>.mp hq).1

/-- **A removal keeps the invariant** when what it leaves is settled, and the other node does not keep an
answer that the reference is part of. -/
theorem Lost.right (hlost : Lost s t forgotten lost) (h : s.Right tests)
    (hset : Settled tests s t.graph fun c => c = forgotten)
    (hlisted : ∀ c, c ≠ forgotten → ∀ q ∈ lost c,
      (s.caches c)._ref q.referenceType q.isForward = none)
    (hchild : ∀ c, c ≠ forgotten → ∀ q ∈ lost c, q.isForward = true →
      s.graph.isA tests .HasChild q = true → (s.caches c)._children = none) : t.Right tests := by
  intro c
  have hnav := hset.navigable c
  rw [hlost.patched_eq h c] at hnav
  refine ⟨?_, ?_, ?_⟩
  · rw [hlost.caches c, hlost.references c]
    split_ifs with hc
    · exact (forgotten_right h hset hlost.attributes c).lose _ (fun _ _ => rfl)
        fun _ _ _ _ => rfl
    · have hclasses := (h c).cache.classes (hset.children c hc) (hset.indexed c)
      refine (hclasses.graph hlost.attributes).lose _ (hlisted c hc) fun q hq hfwd hclass => ?_
      by_contra hkept
      rw [hset.children c hc hkept q (hlost.had c hq)] at hclass
      exact hkept (hchild c hc q hq hfwd hclass)
  · have hpar : (t.caches c)._parent = (s.caches c)._parent := by
      rw [hlost.caches c]
      split_ifs <;> rfl
    rw [hpar]
    exact hnav
  · rw [hlost.references c]
    exact (h c).distinct.sublist (List.Sublist.map _ List.filter_sublist)

@[simp] lemma lostCaches_nil (caches : NodeCaches) : lostCaches caches [] = caches := by
  unfold lostCaches
  cases hindex : caches._childByNameMap <;> simp [← hindex]

lemma lostCaches_append (caches : NodeCaches) (lost more : List ReferenceImpl) :
    lostCaches (lostCaches caches lost) more = lostCaches caches (lost ++ more) := by
  unfold lostCaches
  cases caches._childByNameMap with
  | none => rfl
  | some l =>
    simp only [map_some, filter_filter, List.mem_append, not_or, Bool.decide_and]
    simp only [Bool.and_comm]

lemma _remove_congr {g g' : NodeGraph} (h : g'.attributes = g.attributes) :
    g'._remove = g._remove := by
  have hname : g'.targetName = g.targetName := funext (targetName_congr h)
  funext l q
  unfold _remove
  rw [hname]

lemma lostIndex_congr {χ χ' : Classes} {g g' : NodeGraph} {q : ReferenceImpl}
    (hattrs : g'.attributes = g.attributes)
    (hclass : χ .HierarchicalReferences q = χ' .HierarchicalReferences q)
    (index : Option (List ReferenceImpl)) : lostIndex χ g index q = lostIndex χ' g' index q := by
  unfold lostIndex
  rw [hclass, _remove_congr hattrs]

lemma _remove_HierarchicalReference_eq (s : Navigation) (c : NodeIdText) (q : ReferenceImpl) :
    s._remove_HierarchicalReference tests c q = s.setCaches c { s.caches c with
      _childByNameMap := lostIndex (s.graph.isA tests) s.graph (s.caches c)._childByNameMap q } := by
  have hsame : ∀ index, (s.caches c)._childByNameMap = index →
      s.setCaches c { s.caches c with _childByNameMap := index } = s := by
    rintro _ rfl
    unfold Navigation.setCaches
    rw [Function.update_eq_self]
  unfold _remove_HierarchicalReference lostIndex
  cases hindex : (s.caches c)._childByNameMap with
  | none => exact (hsame none hindex).symm
  | some l =>
    split_ifs
    · rfl
    · exact (hsame _ hindex).symm

variable {a : NodeIdText} {r : ReferenceImpl}

section

variable (s : Navigation) (a : NodeIdText) (r : ReferenceImpl)

/-- What the other node loses. -/
def lostBack : List ReferenceImpl :=
  if r.backward a ∈ s.graph.back r.nodeId then [r.backward a] else []

/-- What a node loses. -/
def lostReferences (c : NodeIdText) :
    List ReferenceImpl :=
  (if c = r.nodeId then s.lostBack a r else []) ++ if c = a then [r] else []

end

lemma mem_lostReferences {c : NodeIdText} {q : ReferenceImpl} :
    q ∈ s.lostReferences a r c ↔
      (c = r.nodeId ∧ r.backward a ∈ s.graph.back r.nodeId ∧ q = r.backward a) ∨ (c = a ∧ q = r) := by
  unfold lostReferences lostBack
  split_ifs <;> simp_all

lemma allReferences_removeOwnReference (h : s.Right tests) (hdecl : r ∈ s.graph.own a)
    (hback : HasHash (s.graph.back r.nodeId) (r.backward a).hash →
      r.backward a ∈ s.graph.back r.nodeId) (c : NodeIdText) :
    (s.graph.removeOwnReference a r).allReferences c =
      (s.graph.allReferences c).filter fun q => q ∉ s.lostReferences a r c := by
  have hinj : ∀ c, ∀ q ∈ s.graph.allReferences c, ∀ p ∈ s.graph.allReferences c, q.hash = p.hash →
      q = p := fun c q hq p hp => List.inj_on_of_nodup_map (h c).distinct hq hp
  have hdisjoint : ∀ c, ∀ q ∈ s.graph.own c, q ∉ s.graph.back c := fun c q hq =>
    (List.nodup_append'.mp (h c).nodup).2.2 hq
  rw [NodeGraph.allReferences, own_removeOwnReference, back_removeOwnReference,
    NodeGraph.allReferences, filter_append]
  congr 1
  · have hother : ∀ q ∈ s.graph.own c,
        (q ∉ s.lostReferences a r c ↔ ¬ (c = a ∧ q = r)) := by
      intro q hq
      rw [mem_lostReferences, not_or, and_iff_right_iff_imp]
      rintro - ⟨rfl, hmem, rfl⟩
      exact hdisjoint _ _ hq hmem
    split_ifs with hc
    · subst hc
      refine filter_congr fun q hq => ?_
      rw [decide_eq_decide, hother q hq]
      constructor
      · rintro hne ⟨-, rfl⟩
        exact hne rfl
      · exact fun hne heq => hne ⟨rfl, hinj c q (mem_of_own hq) r
          (mem_of_own hdecl) heq⟩
    · refine (List.filter_eq_self.mpr fun q hq => ?_).symm
      rw [decide_eq_true_eq, hother q hq]
      exact fun hboth => hc hboth.1
  · have hother : ∀ q ∈ s.graph.back c, (q ∉ s.lostReferences a r c ↔
        ¬ (c = r.nodeId ∧ r.backward a ∈ s.graph.back r.nodeId ∧ q = r.backward a)) := by
      intro q hq
      rw [mem_lostReferences, not_or, and_iff_left_iff_imp]
      rintro - ⟨rfl, rfl⟩
      exact hdisjoint _ _ hdecl hq
    split_ifs with hc
    · subst hc
      refine filter_congr fun q hq => ?_
      rw [decide_eq_decide, hother q hq]
      constructor
      · rintro hne ⟨-, -, rfl⟩
        exact hne rfl
      · intro hne heq
        have hmem := hback (hasHash_iff.mpr ⟨q, hq, heq⟩)
        exact hne ⟨rfl, hmem, hinj _ q (mem_of_back hq) _
          (mem_of_back hmem) heq⟩
    · refine (List.filter_eq_self.mpr fun q hq => ?_).symm
      rw [decide_eq_true_eq, hother q hq]
      exact fun hall => hc hall.1

section

variable (h : s.Right tests) (hrm : s.CanRemoveOwn tests a r)
include h hrm

lemma lostIndex_back :
    lostIndex ((s.graph.eraseOwn a r.hash).isA tests) (s.graph.eraseOwn a r.hash)
        (s.caches r.nodeId)._childByNameMap (r.backward a) =
      (lostCaches (s.caches r.nodeId) (s.lostBack a r))._childByNameMap := by
  have hattrs := attributes_removeOwnReference s.graph a r
  unfold lostBack
  split_ifs with hmem
  · have hhalves : (s.graph.removeOwnReference a r).attributes =
        (s.graph.eraseOwn a r.hash).attributes := by rw [hattrs, attributes_eraseOwn]
    rw [lostIndex_congr hhalves hrm.halfway]
    refine ((forgotten_right h hrm.settled hattrs r.nodeId).lostIndex_eq
      (mem_of_back hmem)).trans ?_
    simp only [lostCaches, List.mem_singleton, ne_eq]
  · rw [lostCaches_nil, lostIndex, _remove_congr (attributes_eraseOwn s.graph a r.hash)]
    cases hindex : (s.caches r.nodeId)._childByNameMap with
    | none => rfl
    | some l =>
      rw [map_some]
      split_ifs with hclass
      · have hfwd : r.isForward = false := by simpa using hclass.1
        rw [hrm.index hmem hfwd hclass.2 l hindex]
      · rfl

lemma removeOwnReference_halfway :
    ∃ u : Navigation, u.graph = s.graph.removeOwnReference a r ∧
      (∀ c, u.caches c =
        lostCaches (s.caches c) (if c = r.nodeId then s.lostBack a r else [])) ∧
      s.removeOwnReference tests a r =
        (u._remove_HierarchicalReference tests a r).clearCache a := by
  refine ⟨_, ?_, fun c => ?_, rfl⟩
  · simp [_remove_backward_reference, NodeGraph.removeOwnReference]
  · unfold _remove_backward_reference
    rw [_remove_HierarchicalReference_eq]
    by_cases hc : c = r.nodeId
    · subst hc
      rw [if_pos rfl]
      rw [caches_setCaches_self, lostIndex_back h hrm]
      rfl
    · rw [if_neg hc, lostCaches_nil]
      exact caches_setCaches_of_ne _ _ hc

/-- **What the removal of a reference that the node declares does** under its condition. -/
lemma removeOwnReference_lost :
    Lost s (s.removeOwnReference tests a r) a (s.lostReferences a r) := by
  have hgraph := @graph_removeOwnReference tests s a r
  have hattrs := attributes_removeOwnReference s.graph a r
  refine ⟨by rw [hgraph, hattrs], fun c => ?_, fun c q hq => ?_, fun c => ?_⟩
  · rw [hgraph]
    exact allReferences_removeOwnReference h hrm.declared hrm.back c
  · rcases mem_lostReferences.mp hq with ⟨rfl, hmem, rfl⟩ | ⟨rfl, rfl⟩
    · exact mem_of_back hmem
    · exact mem_of_own hrm.declared
  · obtain ⟨u, hu, hcaches, heq⟩ := removeOwnReference_halfway h hrm
    rw [heq, _remove_HierarchicalReference_eq, lostReferences, ← lostCaches_append]
    by_cases hc : c = a
    · subst hc
      rw [clearCache, caches_setCaches_self, caches_setCaches_self, hcaches c, hu, if_pos rfl,
        if_pos rfl]
      -- the node forgets its lists in the end, and could do so in the beginning
      have hright := (forgotten_right h hrm.settled hattrs c).lose
        (if c = r.nodeId then s.lostBack c r else []) (fun _ _ => rfl) fun _ _ _ _ => rfl
      have hmem : r ∈ (s.graph.allReferences c).filter fun q =>
          q ∉ if c = r.nodeId then s.lostBack c r else [] := by
        refine List.mem_filter.mpr ⟨mem_of_own hrm.declared,
          decide_eq_true fun hin => ?_⟩
        have hbackward : r = r.backward c := by
          unfold lostBack at hin
          split_ifs at hin
          · exact List.mem_singleton.mp hin
          · cases hin
          · cases hin
        have hflag := congrArg ReferenceImpl.isForward hbackward
        simp at hflag
      have hindex := hright.lostIndex_eq hmem
      unfold lostCaches at hindex ⊢
      rw [hindex]
      simp only [List.mem_singleton, ne_eq]
    · rw [clearCache, caches_setCaches_of_ne _ _ hc, caches_setCaches_of_ne _ _ hc, hcaches c,
        if_neg hc, if_neg hc, lostCaches_nil]

/-- **A removal of a reference that the node declares** keeps the invariant under its condition. -/
theorem removeOwnReference_right :
    (s.removeOwnReference tests a r).Right tests := by
  have hlost := removeOwnReference_lost h hrm
  have hother : ∀ c, c ≠ a → ∀ q ∈ s.lostReferences a r c,
      c = r.nodeId ∧ r.backward a ∈ s.graph.back r.nodeId ∧ q = r.backward a := fun c hc q hq =>
    (mem_lostReferences.mp hq).resolve_right fun hboth => hc hboth.1
  refine hlost.right h ?_ (fun c hc q hq => ?_) fun c hc q hq hfwd hclass => ?_
  · rw [graph_removeOwnReference]
    exact hrm.settled
  · obtain ⟨rfl, hmem, rfl⟩ := hother c hc q hq
    exact hrm.references hmem hc
  · obtain ⟨rfl, hmem, rfl⟩ := hother c hc q hq
    exact hrm.children hmem hc (by simpa using hfwd) hclass

end

/-- **A removal** under its condition keeps the invariant. -/
theorem removeReference_right (h : s.Right tests)
    (hrm : NavigationCondition tests s (.removeReference a r)) :
    (s.removeReference tests a r).Right tests := by
  unfold removeReference
  cases hnode : s.graph.findNode a with
  | none => exact h
  | some node =>
    cases hrel : s.graph.findNode r.nodeId with
    | none => exact h
    | some relatedNode =>
      obtain ⟨hown, hback⟩ := hrm (by rw [hrel]; rfl)
      dsimp only
      split_ifs with hhas hhasBack hother
      · exact removeOwnReference_right h (hown ((hasReference_iff hnode _).mp hhas))
      · exact removeOwnReference_right h (hback ((hasBackReference_iff hnode _).mp hhasBack)
          ((hasReference_iff hrel _).mp hother))
      · exact h
      · exact h

end Lost

/-! ### Runs -/

variable {s : Navigation}

/-- **An operation** under its condition keeps the invariant. -/
theorem perform_right (h : s.Right tests) {op : NavigationOperation}
    (hcond : NavigationCondition tests s op) : (s.perform tests op).Right tests := by
  cases op with
  | addReference nodeId reference => exact addReference_right h hcond
  | removeReference nodeId reference => exact removeReference_right h hcond
  | findReferences nodeId T f | findReferencesAsObject nodeId T f =>
    exact findReferences_right h nodeId T f
  | getChildByName nodeId name namespaceIndex =>
    exact getChildByName_right h nodeId name namespaceIndex
  | getChildren nodeId => exact getChildren_right h nodeId
  | parent nodeId => exact parent_right h nodeId

/-- **The nodes before anything is asked**: their caches are empty, and their references are navigable
and told apart. -/
structure Unasked (s : Navigation) : Prop where
  caches : ∀ c, s.caches c = {}
  navigable : ∀ c, Navigable tests s.graph c none none
  distinct : ∀ c, ((s.graph.allReferences c).map hash).Nodup

lemma Unasked.right (h : s.Unasked tests) : s.Right tests := by
  intro c
  refine ⟨?_, ?_, h.distinct c⟩
  · rw [h.caches c]
    exact ⟨nofun, nofun, nofun, nofun⟩
  · rw [h.caches c]
    exact h.navigable c

lemma unasked_of_noReferences (hcaches : ∀ c, s.caches c = {})
    (hnone : ∀ c, s.graph.allReferences c = []) : s.Unasked tests := by
  refine ⟨hcaches, fun c => ?_, fun c => ?_⟩
  · have hhierarchical : s.graph.hierarchicalReferences tests c = [] := by
      rw [hierarchicalReferences_eq, hnone, List.filter_nil]
    refine ⟨?_, ?_, ?_, nofun, ?_⟩
    · rw [NodeGraph.children, referencesOf, hnone]
      exact List.nodup_nil
    · rw [hnone]
      exact nofun
    · rw [getD_none, hhierarchical]
      exact fun _ _ _ hq => nomatch hq
    · rw [hnone]
      exact fun _ _ hq => nomatch hq
  · rw [hnone]
    exact List.nodup_nil

end Navigation

end NodeOpcua
