import NodeOpcua.AddressSpace.TypeHierarchy
import NodeOpcua.AddressSpace.ReferenceSymmetry

set_option autoImplicit false

/-!
# The subtype tests agree

The answers that are kept are to be those of the walk over the current references. This file says so,
and which mutations keep them so.

## Main definitions

* `TypeSpace.AnswersAgree`.
* `NodeGraph.Hierarchy`, `TypeSpace.KeepsAnswers`.

## Main results

* `NodeGraph.Hierarchy.mem_allSubtypes_iff`, `TypeSpace.run_answersAgree`.
-/

namespace NodeOpcua

open NodeGraph

namespace NodeGraph

/-- Two types of the same class. -/
structure SameClass (g : NodeGraph) (Class : NodeClass) (a b : NodeIdText) : Prop where
  isType : Class = .ObjectType ∨ Class = .VariableType ∨ Class = .DataType ∨ Class = .ReferenceType
  left : g.nodeClass a = some Class
  right : g.nodeClass b = some Class

lemma isReferenceType_iff {g : NodeGraph} {nodeId : NodeIdText} :
    g.isReferenceType nodeId = true ↔ g.nodeClass nodeId = some .ReferenceType := by
  unfold isReferenceType findReferenceType nodeClass
  cases g.findNode nodeId with
  | none => simp
  | some node => by_cases h : node.nodeClass = .ReferenceType <;> simp [Option.filter, h]

lemma findNode_isNone_iff {g : NodeGraph} {nodeId : NodeIdText} :
    (g.findNode nodeId).isNone = true ↔ g.nodeClass nodeId = none := by
  unfold nodeClass
  cases g.findNode nodeId <;> simp

/-- **The reference types are a forest**: a reference type has at most one supertype, both of them have
the reference, and no chain of supertypes is as long as the call stack. -/
structure Hierarchy (depth : ℕ) (g : NodeGraph) : Prop where
  hasSubtype : ∀ x, g.isReferenceType x = true → g.isReferenceType HasSubTypeNodeId = true
  below : ∀ x, g.isReferenceType x = true → ∀ q ∈ g.superTypeOf x,
    g.isReferenceType q.nodeId = true ∧ ∃ p ∈ g.subTypes q.nodeId, p.nodeId = x
  above : ∀ y, g.isReferenceType y = true → ∀ p ∈ g.subTypes y,
    g.isReferenceType p.nodeId = true ∧ ∃ q ∈ g.superTypeOf p.nodeId, q.nodeId = y
  once : ∀ y, g.isReferenceType y = true → (g.subTypes y).length ≤ 1
  levels : ∃ level : NodeIdText → ℕ, ∀ y, g.isReferenceType y = true → level y < depth ∧
    ∀ p ∈ g.subTypes y, level p.nodeId < level y

/-- One step from a type to its supertype. -/
def Below (g : NodeGraph) (y x : NodeIdText) : Prop := ∃ p ∈ g.subTypes y, p.nodeId = x

/-- What the walk from `a` to `b` reads. -/
inductive Climbs (g : NodeGraph) (a b : NodeIdText) : NodeIdText → Prop
  | start : a ≠ b → Climbs g a b a
  | up {x : NodeIdText} {p : ReferenceImpl} : Climbs g a b x → p ∈ g.subTypes x → p.nodeId ≠ b →
    Climbs g a b p.nodeId

/-- What the search for the subtypes of `a` reads. -/
inductive Descends (g : NodeGraph) (a : NodeIdText) : NodeIdText → Prop
  | start : Descends g a a
  | down {x : NodeIdText} {q : ReferenceImpl} : Descends g a x → q ∈ g.superTypeOf x →
    Descends g a q.nodeId

end NodeGraph

namespace TypeSpace

variable (depth : ℕ)

/-! ### What is expected -/

/-- **The three tests agree.** -/
structure AnswersAgree (s : TypeSpace) : Prop where
  memoised : ∀ Class a b, s.graph.SameClass Class a b →
    (s.isSubtypeOf depth a b).1 = s.graph._slow_isSubtypeOf Class depth a b
  indexed : ∀ a b, s.graph.SameClass .ReferenceType a b →
    (s.checkHasSubtype depth a b).1 = s.graph._slow_isSubtypeOf .ReferenceType depth b a

/-! ### The condition -/

/-- **When a mutation keeps the answers**, where `g` are the references that it leaves, `count` is the
counter, and the caches of some nodes are emptied. The reference types are still a forest. On a node
whose cache is not emptied, a memoised answer is one of a walk that has read no references that are
changed, and neither has the search for an index that is current; a list that is kept is not
changed. -/
structure KeepsAnswers (s : TypeSpace) (g : NodeGraph) (count : ℕ) (clears : List NodeIdText) :
    Prop where
  hierarchy : g.Hierarchy depth
  memoised : ∀ a, a ∉ clears → ∀ b, (s.caches a).memoMap b ≠ none → ∀ Class, g.SameClass Class a b →
    s.graph.SameClass Class a b ∧
      ∀ x, s.graph.Climbs a b x → g.nodeClass x = s.graph.nodeClass x ∧ g.subTypes x = s.graph.subTypes x
  listed : ∀ a, a ∉ clears → (s.caches a)._ref ≠ none → g.superTypeOf a = s.graph.superTypeOf a
  indexed : ∀ a, a ∉ clears →
    keptSubTypes count (s.caches a) ≠ none ∨ keptIndex count (s.caches a) ≠ none →
      ∀ x, s.graph.Descends a x →
        g.nodeClass x = s.graph.nodeClass x ∧ g.superTypeOf x = s.graph.superTypeOf x

/-- **When an operation leaves tests that agree.** A query always does. -/
def TypeCondition (s : TypeSpace) : TypeOperation → Prop
  | .isSubtypeOf _ _ => True
  | .checkHasSubtype _ _ => True
  | .findReferences _ => True
  | mutation => KeepsAnswers depth s (graphAfter s.graph mutation)
      (countAfter s.ReferenceTypeCounter mutation) (clears s.graph mutation)

/-! ### The invariant -/

/-- **The invariant**: what is kept is right. -/
structure Right (s : TypeSpace) : Prop where
  hierarchy : s.graph.Hierarchy depth
  memoised : ∀ Class a, MemoTable.Right (fun b => s.graph.SameClass Class a b)
    (fun b => s.graph._slow_isSubtypeOf Class depth a b) (s.caches a).memoMap
  listed : s.ReferencesRight
  subtypes : ∀ a types, keptSubTypes s.ReferenceTypeCounter (s.caches a) = some types →
    s.graph.allSubtypes depth a = .ok types
  index : ∀ a keys, keptIndex s.ReferenceTypeCounter (s.caches a) = some keys →
    s.graph.allSubtypes depth a = .ok keys

end TypeSpace

/-! ### The walk and the search -/

namespace NodeGraph

variable {g g' : NodeGraph} {depth : ℕ} {a : NodeIdText}

/-- **The walk** depends on the references that it reads. -/
lemma _slow_isSubtypeOf_congr {Class : NodeClass} {b : NodeIdText}
    (hb : g'.nodeClass b = g.nodeClass b) (n : ℕ)
    (h : ∀ x, g.Climbs a b x → g'.nodeClass x = g.nodeClass x ∧ g'.subTypes x = g.subTypes x) :
    g'._slow_isSubtypeOf Class n a b = g._slow_isSubtypeOf Class n a b := by
  induction n generalizing a with
  | zero => rfl
  | succ n ih =>
    have ha : g'.nodeClass a = g.nodeClass a := by
      by_cases hab : a = b
      · rw [hab, hb]
      · exact (h a (.start hab)).1
    unfold _slow_isSubtypeOf
    rw [ha, hb]
    split_ifs with hclass hab
    · rfl
    · rfl
    · rw [(h a (.start hab)).2]
      match hsub : g.subTypes a with
      | [] => rfl
      | [p] =>
        have hp : p ∈ g.subTypes a := by rw [hsub]; exact List.mem_cons_self
        dsimp only
        by_cases hpb : p.nodeId = b
        · have hnone : (g'.findNode p.nodeId).isNone = (g.findNode p.nodeId).isNone := by
            rw [Bool.eq_iff_iff, findNode_isNone_iff, findNode_isNone_iff, hpb, hb]
          rw [hnone, if_pos hpb, if_pos hpb]
        · have hup := Climbs.up (.start hab) hp hpb
          have hnone : (g'.findNode p.nodeId).isNone = (g.findNode p.nodeId).isNone := by
            rw [Bool.eq_iff_iff, findNode_isNone_iff, findNode_isNone_iff, (h _ hup).1]
          have hrest : ∀ x, g.Climbs p.nodeId b x → g.Climbs a b x := by
            intro x hx
            induction hx with
            | start => exact hup
            | up _ hmem hne ih => exact .up ih hmem hne
          rw [hnone, if_neg hpb, if_neg hpb, ih fun x hx => h x (hrest x hx)]
      | _ :: _ :: _ => rfl

variable {references : List ReferenceImpl}

lemma subtypesAlong_congr {f f' : NodeIdText → Except SubtypeError (List NodeIdText)}
    (h : ∀ q ∈ references,
      g'.isReferenceType q.nodeId = g.isReferenceType q.nodeId ∧ f' q.nodeId = f q.nodeId) :
    g'.subtypesAlong f' references = g.subtypesAlong f references := by
  induction references with
  | nil => rfl
  | cons q references ih =>
    obtain ⟨htype, hf⟩ := h q List.mem_cons_self
    unfold subtypesAlong
    rw [htype, hf, ih fun p hp => h p (List.mem_cons_of_mem _ hp)]

/-- **The search** depends on the references that it reads. -/
lemma allSubtypes_congr
    (hfound : g'.isReferenceType HasSubTypeNodeId = g.isReferenceType HasSubTypeNodeId) (n : ℕ)
    (h : ∀ x, g.Descends a x →
      g'.nodeClass x = g.nodeClass x ∧ g'.superTypeOf x = g.superTypeOf x) :
    g'.allSubtypes n a = g.allSubtypes n a := by
  induction n generalizing a with
  | zero => rfl
  | succ n ih =>
    obtain ⟨hclass, hrefs⟩ := h a .start
    unfold allSubtypes
    rw [hfound, hclass, hrefs]
    split_ifs
    · rfl
    · rfl
    · congr 1
      refine subtypesAlong_congr fun q hq => ⟨?_, ih fun x hx => h x ?_⟩
      · rw [Bool.eq_iff_iff, isReferenceType_iff, isReferenceType_iff,
          (h q.nodeId (.down .start hq)).1]
      · induction hx with
        | start => exact .down .start hq
        | down _ hmem ih => exact .down ih hmem

variable {level : NodeIdText → ℕ}

lemma Hierarchy.slow_isSubtypeOf (h : g.Hierarchy depth)
    (hlevel : ∀ y, g.isReferenceType y = true → ∀ p ∈ g.subTypes y, level p.nodeId < level y)
    {b : NodeIdText} (hb : g.isReferenceType b = true) (n : ℕ)
    (ha : g.isReferenceType a = true) (hn : level a < n) :
    ∃ answer, g._slow_isSubtypeOf .ReferenceType n a b = .ok answer ∧
      (answer = true ↔ Relation.ReflTransGen g.Below a b) := by
  induction n generalizing a with
  | zero => omega
  | succ n ih =>
    unfold _slow_isSubtypeOf
    rw [isReferenceType_iff.mp ha, isReferenceType_iff.mp hb, if_neg (by simp)]
    split_ifs with hab
    · exact ⟨true, rfl, iff_of_true rfl (hab ▸ .refl)⟩
    · match hsub : g.subTypes a with
      | [] =>
        refine ⟨false, rfl, iff_of_false Bool.false_ne_true fun hreach => ?_⟩
        rcases hreach.cases_head with rfl | ⟨x, ⟨p, hp, -⟩, -⟩
        · exact hab rfl
        · rw [hsub] at hp
          cases hp
      | [p] =>
        have hp : p ∈ g.subTypes a := by rw [hsub]; exact List.mem_cons_self
        have hclass := (h.above a ha p hp).1
        have hsome : (g.findNode p.nodeId).isNone = false := by
          rw [Bool.eq_false_iff, ne_eq, findNode_isNone_iff, isReferenceType_iff.mp hclass]
          nofun
        dsimp only
        rw [hsome, if_neg Bool.false_ne_true]
        split_ifs with hpb
        · exact ⟨true, rfl, iff_of_true rfl (.single ⟨p, hp, hpb⟩)⟩
        · obtain ⟨answer, hans, hiff⟩ := ih hclass (by have := hlevel a ha p hp; omega)
          refine ⟨answer, hans, hiff.trans ⟨fun hreach => .head ⟨p, hp, rfl⟩ hreach,
            fun hreach => ?_⟩⟩
          rcases hreach.cases_head with heq | ⟨x, ⟨q, hq, rfl⟩, hreach⟩
          · exact absurd heq hab
          · -- the supertype is the only one
            rw [hsub, List.mem_singleton] at hq
            exact hq ▸ hreach
      | _ :: _ :: _ =>
        have honce := h.once a ha
        rw [hsub] at honce
        simp at honce

lemma subtypesAlong_ok {f : NodeIdText → Except SubtypeError (List NodeIdText)}
    (htypes : ∀ q ∈ references, g.isReferenceType q.nodeId = true)
    (hf : ∀ q ∈ references, ∃ types, f q.nodeId = .ok types) :
    ∃ types, g.subtypesAlong f references = .ok types ∧
      ∀ y, y ∈ types ↔ ∃ q ∈ references, ∃ l, f q.nodeId = .ok l ∧ y ∈ l := by
  induction references with
  | nil => exact ⟨[], rfl, fun y => by simp⟩
  | cons q references ih =>
    obtain ⟨types, hq⟩ := hf q List.mem_cons_self
    obtain ⟨more, hmore, hmem⟩ := ih (fun p hp => htypes p (List.mem_cons_of_mem _ hp))
      fun p hp => hf p (List.mem_cons_of_mem _ hp)
    refine ⟨types ++ more, ?_, fun y => ?_⟩
    · unfold subtypesAlong
      rw [if_pos (htypes q List.mem_cons_self), hq, hmore]
      rfl
    · rw [List.mem_append, hmem]
      constructor
      · rintro (hy | ⟨p, hp, l, hl, hy⟩)
        · exact ⟨q, List.mem_cons_self, types, hq, hy⟩
        · exact ⟨p, List.mem_cons_of_mem _ hp, l, hl, hy⟩
      · rintro ⟨p, hp, l, hl, hy⟩
        rcases List.mem_cons.mp hp with rfl | hp
        · rw [hq] at hl
          exact Or.inl (Except.ok.inj hl ▸ hy)
        · exact Or.inr ⟨p, hp, l, hl, hy⟩

lemma Hierarchy.isReferenceType (h : g.Hierarchy depth) {y x : NodeIdText}
    (hy : g.isReferenceType y = true) (hreach : Relation.ReflTransGen g.Below y x) :
    g.isReferenceType x = true := by
  induction hreach with
  | refl => exact hy
  | tail _ hstep ih =>
    obtain ⟨p, hp, rfl⟩ := hstep
    exact (h.above _ ih p hp).1

lemma Hierarchy.allSubtypes_ok (h : g.Hierarchy depth)
    (hlevel : ∀ y, g.isReferenceType y = true → level y < depth ∧
      ∀ p ∈ g.subTypes y, level p.nodeId < level y) (n : ℕ)
    (ha : g.isReferenceType a = true) (hn : depth ≤ level a + n) :
    ∃ types, g.allSubtypes n a = .ok types ∧
      ∀ y, y ∈ types ↔ g.isReferenceType y = true ∧ Relation.ReflTransGen g.Below y a := by
  induction n generalizing a with
  | zero =>
    have := (hlevel a ha).1
    omega
  | succ n ih =>
    have hchild : ∀ q ∈ g.superTypeOf a, ∃ types, g.allSubtypes n q.nodeId = .ok types ∧
        ∀ y, y ∈ types ↔
          g.isReferenceType y = true ∧ Relation.ReflTransGen g.Below y q.nodeId := by
      intro q hq
      obtain ⟨htype, p, hp, hpa⟩ := h.below a ha q hq
      have hlower := (hlevel q.nodeId htype).2 p hp
      rw [hpa] at hlower
      exact ih htype (by omega)
    obtain ⟨types, htypes, hmem⟩ := subtypesAlong_ok (f := g.allSubtypes n)
      (fun q hq => (h.below a ha q hq).1) fun q hq => (hchild q hq).imp fun _ hboth => hboth.1
    refine ⟨a :: types, ?_, fun y => ?_⟩
    · unfold allSubtypes
      rw [h.hasSubtype a ha, if_neg (by simp), if_neg (by simp [isReferenceType_iff.mp ha]), htypes]
      rfl
    · rw [List.mem_cons, hmem]
      constructor
      · rintro (rfl | ⟨q, hq, l, hl, hy⟩)
        · exact ⟨ha, .refl⟩
        · obtain ⟨types, hok, hiff⟩ := hchild q hq
          rw [hl] at hok
          obtain ⟨htype, hreach⟩ := (hiff y).mp (Except.ok.inj hok ▸ hy)
          obtain ⟨-, p, hp, hpa⟩ := h.below a ha q hq
          exact ⟨htype, hreach.tail ⟨p, hp, hpa⟩⟩
      · rintro ⟨htype, hreach⟩
        rcases hreach.cases_tail with rfl | ⟨x, hup, ⟨p, hp, rfl⟩⟩
        · exact Or.inl rfl
        · -- what is below the type is a reference type, and the type has the reference to it
          obtain ⟨-, q, hq, rfl⟩ := h.above x (h.isReferenceType htype hup) p hp
          obtain ⟨types, hok, hiff⟩ := hchild q hq
          exact Or.inr ⟨q, hq, types, hok, (hiff y).mpr ⟨htype, hup⟩⟩

/-- **What is found from above is what is found from below**, in a forest. -/
theorem Hierarchy.mem_allSubtypes_iff (h : g.Hierarchy depth) {a b : NodeIdText}
    (ha : g.isReferenceType a = true) (hb : g.isReferenceType b = true) :
    ∃ types, g.allSubtypes depth a = .ok types ∧
      g._slow_isSubtypeOf .ReferenceType depth b a = .ok (decide (b ∈ types)) := by
  obtain ⟨level, hlevel⟩ := h.levels
  obtain ⟨types, htypes, hmem⟩ := h.allSubtypes_ok hlevel depth ha (Nat.le_add_left _ _)
  obtain ⟨answer, hans, hiff⟩ := h.slow_isSubtypeOf (fun y hy => (hlevel y hy).2) ha depth hb
    (hlevel b hb).1
  refine ⟨types, htypes, ?_⟩
  rw [hans]
  congr 1
  rw [Bool.eq_iff_iff, hiff, decide_eq_true_eq, hmem]
  exact (and_iff_right hb).symm

lemma hierarchy_empty : empty.Hierarchy depth := by
  have hnone : ∀ x, ¬ empty.isReferenceType x = true := fun x hx => by
    simp [NodeGraph.isReferenceType, findReferenceType, empty] at hx
  exact ⟨fun x hx => absurd hx (hnone x), fun x hx => absurd hx (hnone x),
    fun x hx => absurd hx (hnone x), fun x hx => absurd hx (hnone x),
    ⟨fun _ => 0, fun x hx => absurd hx (hnone x)⟩⟩

end NodeGraph

namespace TypeSpace

variable {depth : ℕ} {s : TypeSpace}

/-! ### Queries -/

variable {g : NodeGraph}

lemma isSubtypeOfClass_eq {Class : NodeClass} {a b : NodeIdText} (h : g.SameClass Class a b) :
    isSubtypeOfClass depth g Class a b = g._slow_isSubtypeOf Class depth a b := by
  unfold isSubtypeOfClass
  rw [h.left, h.right, if_neg (not_not.mpr rfl), if_neg (not_not.mpr rfl)]

/-- **Only caches are replaced** by a query. -/
lemma Right.setCaches (h : s.Right depth) {nodeId : NodeIdText} {caches : TypeCaches}
    (hmemo : ∀ Class, MemoTable.Right (fun b => s.graph.SameClass Class nodeId b)
      (fun b => s.graph._slow_isSubtypeOf Class depth nodeId b) caches.memoMap)
    (hlisted : ∀ l, caches._ref = some l → l = s.graph.superTypeOf nodeId)
    (hsubtypes : ∀ types, keptSubTypes s.ReferenceTypeCounter caches = some types →
      s.graph.allSubtypes depth nodeId = .ok types)
    (hindex : ∀ keys, keptIndex s.ReferenceTypeCounter caches = some keys →
      s.graph.allSubtypes depth nodeId = .ok keys) : (s.setCaches nodeId caches).Right depth := by
  have hcases : ∀ {P : NodeIdText → TypeCaches → Prop}, (∀ a, P a (s.caches a)) → P nodeId caches →
      ∀ a, P a ((s.setCaches nodeId caches).caches a) := by
    intro P hall hnew a
    by_cases ha : a = nodeId
    · subst ha
      rwa [caches_setCaches_self]
    · rw [caches_setCaches_of_ne _ _ ha]
      exact hall a
  refine ⟨h.hierarchy, fun Class => ?_, ?_, ?_, ?_⟩
  · exact hcases (P := fun a k => MemoTable.Right (fun b => s.graph.SameClass Class a b)
      (fun b => s.graph._slow_isSubtypeOf Class depth a b) k.memoMap) (h.memoised Class) (hmemo Class)
  · exact hcases (P := fun a k => ∀ l, k._ref = some l → l = s.graph.superTypeOf a) h.listed hlisted
  · exact hcases (P := fun a k => ∀ types, keptSubTypes s.ReferenceTypeCounter k = some types →
      s.graph.allSubtypes depth a = .ok types) h.subtypes hsubtypes
  · exact hcases (P := fun a k => ∀ keys, keptIndex s.ReferenceTypeCounter k = some keys →
      s.graph.allSubtypes depth a = .ok keys) h.index hindex

lemma findReferences_right (h : s.Right depth) (nodeId : NodeIdText) :
    (s.findReferences nodeId).2.Right depth := by
  unfold findReferences
  cases (s.caches nodeId)._ref with
  | some l => exact h
  | none =>
    exact h.setCaches (fun Class => h.memoised Class nodeId) (fun l hl => (Option.some.inj hl).symm)
      (h.subtypes nodeId) (h.index nodeId)

lemma SameButReferences.right {t : TypeSpace} (hsame : s.SameButReferences t) (h : s.Right depth)
    (ht : t.ReferencesRight) : t.Right depth := by
  refine ⟨hsame.graph ▸ h.hierarchy, fun Class a => ?_, ht, fun a types hkept => ?_,
    fun a keys hkept => ?_⟩
  · rw [hsame.graph, hsame.caches a]
    exact h.memoised Class a
  · rw [hsame.caches a, hsame.count] at hkept
    rw [hsame.graph]
    exact h.subtypes a types hkept
  · rw [hsame.caches a, hsame.count] at hkept
    rw [hsame.graph]
    exact h.index a keys hkept

lemma keptSubTypes_forget (count : ℕ) (caches : TypeCaches) :
    keptSubTypes count { caches with _allSubTypes := keptSubTypes count caches } =
      keptSubTypes count caches := by
  unfold keptSubTypes
  split_ifs <;> rfl

lemma keptIndex_forget (count : ℕ) (caches : TypeCaches) :
    keptIndex count { caches with _subtype_idx := keptIndex count caches } =
      keptIndex count caches := by
  unfold keptIndex
  split_ifs <;> rfl

/-- **The subtypes**, from a right state, and the state afterwards. -/
lemma _getAllSubtypes_right (h : s.Right depth) (refType : NodeIdText) :
    (s._getAllSubtypes depth refType).1 = s.graph.allSubtypes depth refType ∧
      (s._getAllSubtypes depth refType).2.Right depth ∧
      (s._getAllSubtypes depth refType).2.graph = s.graph ∧
      (s._getAllSubtypes depth refType).2.ReferenceTypeCounter = s.ReferenceTypeCounter := by
  unfold _getAllSubtypes
  have hforget := @Right.setCaches depth s h refType { s.caches refType with
      _allSubTypes := keptSubTypes s.ReferenceTypeCounter (s.caches refType) }
    (fun Class => h.memoised Class refType) (h.listed refType)
    (fun types hkept => h.subtypes refType types (by rwa [keptSubTypes_forget] at hkept))
    (h.index refType)
  dsimp only
  cases hkept : keptSubTypes s.ReferenceTypeCounter (s.caches refType) with
  | some types =>
    rw [hkept] at hforget
    exact ⟨(h.subtypes refType types hkept).symm, hforget, rfl, rfl⟩
  | none =>
    rw [hkept] at hforget
    obtain ⟨hfst, hlisted, hsame⟩ := _findAllSubType_eq depth hforget.listed refType
    have hright := hsame.right hforget hlisted
    rcases hcall : _findAllSubType depth (s.setCaches refType
      { s.caches refType with _allSubTypes := none }) refType with ⟨error | types, t⟩ <;>
      rw [hcall] at hfst hright hsame
    · exact ⟨hfst, hright, hsame.graph, hsame.count⟩
    · refine ⟨hfst, hright.setCaches (fun Class => hright.memoised Class refType)
        (hright.listed refType) (fun types' hkept' => ?_) (hright.index refType),
        hsame.graph, hsame.count⟩
      unfold keptSubTypes at hkept'
      split_ifs at hkept'
      rw [← Option.some.inj hkept', hsame.graph]
      exact hfst.symm

/-- **The index**, from a right state, and the state afterwards. -/
lemma _getSubtypeIndex_right (h : s.Right depth) (refType : NodeIdText) :
    (s._getSubtypeIndex depth refType).1 = s.graph.allSubtypes depth refType ∧
      (s._getSubtypeIndex depth refType).2.Right depth := by
  unfold _getSubtypeIndex
  have hforget := @Right.setCaches depth s h refType { s.caches refType with
      _subtype_idx := keptIndex s.ReferenceTypeCounter (s.caches refType) }
    (fun Class => h.memoised Class refType) (h.listed refType) (h.subtypes refType)
    fun keys hkept => h.index refType keys (by rwa [keptIndex_forget] at hkept)
  dsimp only
  cases hkept : keptIndex s.ReferenceTypeCounter (s.caches refType) with
  | some keys =>
    rw [hkept] at hforget
    exact ⟨(h.index refType keys hkept).symm, hforget⟩
  | none =>
    rw [hkept] at hforget
    obtain ⟨hfst, hright, hgraph, hcount⟩ := _getAllSubtypes_right hforget refType
    rcases hcall : _getAllSubtypes depth (s.setCaches refType
      { s.caches refType with _subtype_idx := none }) refType with ⟨error | keys, t⟩ <;>
      rw [hcall] at hfst hright hgraph
    · exact ⟨hfst, hright⟩
    · refine ⟨hfst, hright.setCaches (fun Class => hright.memoised Class refType)
        (hright.listed refType) (hright.subtypes refType) fun keys' hkept' => ?_⟩
      unfold keptIndex at hkept'
      split_ifs at hkept'
      rw [← Option.some.inj hkept', hgraph]
      exact hfst.symm

/-- **The invariant gives the answers.** -/
theorem Right.agrees (h : s.Right depth) : s.AnswersAgree depth := by
  refine ⟨fun Class a b hclass => ?_, fun a b hclass => ?_⟩
  · have hmemo : MemoTable.Right (fun b => s.graph.SameClass Class a b)
        (isSubtypeOfClass depth s.graph Class a) (s.caches a).memoMap :=
      (h.memoised Class a).transfer fun b _ hclass => ⟨hclass, isSubtypeOfClass_eq hclass⟩
    unfold isSubtypeOf
    rw [hclass.left]
    exact (MemoTable.ask_fst hmemo hclass).trans (isSubtypeOfClass_eq hclass)
  · obtain ⟨types, htypes, hslow⟩ := h.hierarchy.mem_allSubtypes_iff
      (isReferenceType_iff.mpr hclass.left) (isReferenceType_iff.mpr hclass.right)
    rw [hslow]
    unfold checkHasSubtype
    dsimp only
    rw [(_getSubtypeIndex_right h a).1, htypes]
    rfl

lemma isSubtypeOf_right (h : s.Right depth) (a b : NodeIdText) :
    (s.isSubtypeOf depth a b).2.Right depth := by
  unfold isSubtypeOf
  split
  · exact h
  · next Class hnode =>
    refine h.setCaches (fun Class' => ?_) (h.listed a) (h.subtypes a) (h.index a)
    -- a node has one class only
    have hmemo : MemoTable.Right (fun b => s.graph.SameClass Class' a b)
        (isSubtypeOfClass depth s.graph Class a) (s.caches a).memoMap :=
      (h.memoised Class' a).transfer fun b _ hclass => by
        obtain rfl := Option.some.inj (hnode.symm.trans hclass.left)
        exact ⟨hclass, isSubtypeOfClass_eq hclass⟩
    exact (hmemo.ask b).transfer fun c _ hclass => by
      obtain rfl := Option.some.inj (hnode.symm.trans hclass.left)
      exact ⟨hclass, (isSubtypeOfClass_eq hclass).symm⟩

/-! ### Mutations -/

variable {types : List NodeIdText}

lemma keptSubTypes_mono {count count' : ℕ} (hcount : count ≤ count') {caches : TypeCaches}
    (h : keptSubTypes count' caches = some types) :
    keptSubTypes count caches = some types := by
  unfold keptSubTypes at h ⊢
  split_ifs at h with hbehind
  rw [if_neg (by omega)]
  exact h

lemma keptIndex_mono {count count' : ℕ} (hcount : count ≤ count') {caches : TypeCaches}
    {keys : List NodeIdText} (h : keptIndex count' caches = some keys) :
    keptIndex count caches = some keys := by
  unfold keptIndex at h ⊢
  split_ifs at h with hbehind
  rw [if_neg (by omega)]
  exact h

lemma le_countAfter (count : ℕ) (operation : TypeOperation) :
    count ≤ countAfter count operation := by
  unfold countAfter
  split
  · split
    · exact Nat.le_refl _
    · split_ifs <;> omega
  · exact Nat.le_refl _

/-- **What has been found is found again**, when the search reads no references that are changed. -/
lemma allSubtypes_kept (hierarchy : g.Hierarchy depth) {a : NodeIdText}
    (hfound : s.graph.allSubtypes depth a = .ok types) (hsame : ∀ x, s.graph.Descends a x →
      g.nodeClass x = s.graph.nodeClass x ∧ g.superTypeOf x = s.graph.superTypeOf x) :
    g.allSubtypes depth a = .ok types := by
  have htypes : s.graph.isReferenceType HasSubTypeNodeId = true ∧
      s.graph.nodeClass a = some .ReferenceType := by
    cases depth with
    | zero => cases hfound
    | succ depth =>
      unfold allSubtypes at hfound
      split_ifs at hfound with hhasSubtype hclass
      exact ⟨Bool.not_eq_false _ ▸ hhasSubtype, not_not.mp hclass⟩
  have hclass : g.isReferenceType a = true := by
    rw [isReferenceType_iff, (hsame a .start).1]
    exact htypes.2
  rw [← hfound]
  exact allSubtypes_congr ((hierarchy.hasSubtype a hclass).trans htypes.1.symm) depth hsame

variable {operation : TypeOperation}

/-- **A mutation** under its condition keeps the invariant. -/
theorem Right.mutate (h : s.Right depth)
    (hkeeps : KeepsAnswers depth s (graphAfter s.graph operation)
      (countAfter s.ReferenceTypeCounter operation) (clears s.graph operation)) :
    (s.mutate operation).Right depth := by
  have hcount := le_countAfter s.ReferenceTypeCounter operation
  -- the caches that are emptied are right
  have hcases : ∀ {P : NodeIdText → TypeCaches → Prop},
      (∀ a, a ∉ clears s.graph operation → P a (s.caches a)) → (∀ a, P a {}) →
        ∀ a, P a ((s.mutate operation).caches a) := by
    intro P hkept hempty a
    unfold TypeSpace.mutate
    dsimp only
    split_ifs with hclears
    · exact hempty a
    · exact hkept a hclears
  have hnever : ∀ count, keptSubTypes count {} = none ∧ keptIndex count {} = none := fun count => by
    simp [keptSubTypes, keptIndex]
  refine ⟨hkeeps.hierarchy, fun Class => ?_, ?_, ?_, ?_⟩
  · refine hcases (P := fun a k => MemoTable.Right
      (fun b => (graphAfter s.graph operation).SameClass Class a b)
      (fun b => (graphAfter s.graph operation)._slow_isSubtypeOf Class depth a b) k.memoMap)
      (fun a ha => ?_) fun a => MemoTable.right_empty
    refine (h.memoised Class a).transfer fun b hrecd hclass => ?_
    obtain ⟨hclass', hsame⟩ := hkeeps.memoised a ha b hrecd Class hclass
    exact ⟨hclass', _slow_isSubtypeOf_congr (hclass.right.trans hclass'.right.symm) depth hsame⟩
  · refine hcases (P := fun a k => ∀ l, k._ref = some l →
      l = (graphAfter s.graph operation).superTypeOf a) (fun a ha l hl => ?_) fun a l hl => nomatch hl
    rw [hkeeps.listed a ha (by rw [hl]; nofun)]
    exact h.listed a l hl
  · refine hcases (P := fun a k => ∀ types,
      keptSubTypes (countAfter s.ReferenceTypeCounter operation) k = some types →
        (graphAfter s.graph operation).allSubtypes depth a = .ok types)
      (fun a ha types hkept => ?_) fun a types hkept => ?_
    · exact allSubtypes_kept hkeeps.hierarchy (h.subtypes a types (keptSubTypes_mono hcount hkept))
        (hkeeps.indexed a ha (Or.inl (by rw [hkept]; nofun)))
    · rw [(hnever _).1] at hkept
      cases hkept
  · refine hcases (P := fun a k => ∀ keys,
      keptIndex (countAfter s.ReferenceTypeCounter operation) k = some keys →
        (graphAfter s.graph operation).allSubtypes depth a = .ok keys)
      (fun a ha keys hkept => ?_) fun a keys hkept => ?_
    · exact allSubtypes_kept hkeeps.hierarchy (h.index a keys (keptIndex_mono hcount hkept))
        (hkeeps.indexed a ha (Or.inr (by rw [hkept]; nofun)))
    · rw [(hnever _).2] at hkept
      cases hkept

/-! ### Runs -/

/-- **An operation** under its condition keeps the invariant. -/
theorem perform_right (h : s.Right depth)
    (hcond : s.TypeCondition depth operation) : (s.perform depth operation).Right depth := by
  cases operation with
  | createNode nodeId browseName nodeClass references | addReference nodeId reference
  | removeReference nodeId reference | deleteNode nodeId lookups depth clears =>
    exact h.mutate hcond
  | isSubtypeOf a b => exact isSubtypeOf_right h a b
  | checkHasSubtype a b => exact (_getSubtypeIndex_right h a).2
  | findReferences a => exact findReferences_right h a

lemma empty_right : empty.Right depth :=
  ⟨hierarchy_empty, fun _ _ => MemoTable.right_empty, nofun, nofun, nofun⟩

lemma hierarchy_of_noReferences (hnone : ∀ c, g.allReferences c = [])
    (hfound : g.isReferenceType HasSubTypeNodeId = true) (hdepth : 0 < depth) :
    g.Hierarchy depth := by
  have hsub : ∀ y, g.subTypes y = [] := fun y => by rw [subTypes, hnone, List.filter_nil]
  have hsuper : ∀ x, g.superTypeOf x = [] := fun x => by
    rw [superTypeOf, findReferences_no_cache, hnone, List.filter_nil]
  refine ⟨fun _ _ => hfound, fun x _ q hq => ?_, fun y _ p hp => ?_, fun y _ => ?_,
    ⟨fun _ => 0, fun y _ => ⟨hdepth, fun p hp => ?_⟩⟩⟩
  · rw [hsuper] at hq
    cases hq
  · rw [hsub] at hp
    cases hp
  · rw [hsub]
    exact Nat.zero_le 1
  · rw [hsub] at hp
    cases hp

lemma hierarchy_of_one {x y : NodeIdText} (hxy : x ≠ y)
    (hx : g.isReferenceType x = true) (hy : g.isReferenceType y = true)
    (hall : ∀ c, g.allReferences c =
      if c = x then [⟨HasSubTypeNodeId, true, y⟩]
      else if c = y then [⟨HasSubTypeNodeId, false, x⟩] else [])
    (hfound : g.isReferenceType HasSubTypeNodeId = true) (hdepth : 1 < depth) :
    g.Hierarchy depth := by
  have hsub : ∀ c, g.subTypes c = if c = y then [⟨HasSubTypeNodeId, false, x⟩] else [] := by
    intro c
    rw [subTypes, hall]
    by_cases hc : c = x
    · rw [if_pos hc, if_neg fun h => hxy (hc.symm.trans h)]
      simp
    · rw [if_neg hc]
      split_ifs <;> simp
  have hsuper : ∀ c, g.superTypeOf c = if c = x then [⟨HasSubTypeNodeId, true, y⟩] else [] := by
    intro c
    rw [superTypeOf, findReferences_no_cache, hall]
    split_ifs <;> simp
  refine ⟨fun _ _ => hfound, fun c _ q hq => ?_, fun c _ p hp => ?_, fun c _ => ?_,
    ⟨fun c => if c = y then 1 else 0, fun c _ => ⟨?_, fun p hp => ?_⟩⟩⟩
  · rw [hsuper] at hq
    split_ifs at hq with hc
    · rw [List.mem_singleton.mp hq, hsub, if_pos rfl, hc]
      exact ⟨hy, _, List.mem_singleton_self _, rfl⟩
    · cases hq
  · rw [hsub] at hp
    split_ifs at hp with hc
    · rw [List.mem_singleton.mp hp, hsuper, if_pos rfl, hc]
      exact ⟨hx, _, List.mem_singleton_self _, rfl⟩
    · cases hp
  · rw [hsub]
    split_ifs <;> simp
  · dsimp only
    split_ifs <;> omega
  · rw [hsub] at hp
    split_ifs at hp with hc
    · rw [List.mem_singleton.mp hp]
      simp [hc, hxy]
    · cases hp

end TypeSpace

end NodeOpcua
