import NodeOpcua.AddressSpace.NodeIdManager
import NodeOpcua.Library.Mealy

set_option autoImplicit false

/-!
# Collisions of node identifiers

An identifier that is constructed for a new node is to be one of its namespace, that no other node
has, and that is not kept for another name.

## Main definitions

* `NodeIdManager.CollisionFree`.
* `NodeIdManager.AllocationCondition`.

## Main results

* `NodeIdManager.collisionFree_iff`, `NodeIdManager.run_collisionFree_iff`.
-/

namespace NodeOpcua

open BuiltIn
open Bool (false_eq_true)
open List (lookup_cons)
open Prod (fst)
open UInt32 (ofNat)

variable {U : CaseMapping}

/-! ### The object of the symbolic names -/

namespace SymbolCache

lemma lookup_setOwn (key : String) (entry : SymbolEntry) (own : List (String × SymbolEntry))
    (key' : String) :
    (setOwn key entry own).lookup key' = if key' = key then some entry else own.lookup key' := by
  induction own with
  | nil =>
    by_cases h : key' = key
    · simp [setOwn, h]
    · simp [setOwn, lookup_cons, h, beq_false_of_ne h]
  | cons e own ih =>
    obtain ⟨key'', entry''⟩ := e
    unfold setOwn
    by_cases h : key'' = key
    · rw [if_pos h, lookup_cons, lookup_cons, h]
      by_cases h' : key' = key
      · simp [h']
      · simp [h', beq_false_of_ne h']
    · rw [if_neg h, lookup_cons, lookup_cons, ih]
      by_cases h' : key' = key''
      · have hne : key' ≠ key := fun heq => h (h'.symm.trans heq)
        simp [h', h]
      · simp [beq_false_of_ne h']

lemma get_set_self (cache : SymbolCache) (key : String) (entry : SymbolEntry) :
    (cache.set key entry).get key = .entry entry := by
  unfold set get
  by_cases h : key = "__proto__"
  · rw [if_pos h, if_pos h]
  · rw [if_neg h, if_neg h, lookup_setOwn, if_pos rfl]

/-- **The other entries** stay as they are. -/
lemma get_set_of_ne (cache : SymbolCache) {key key' : String} (hne : key' ≠ key)
    (entry value : SymbolEntry) :
    (cache.set key entry).get key' = .entry value ↔ cache.get key' = .entry value := by
  unfold set get
  by_cases h : key = "__proto__"
  · have h' : key' ≠ "__proto__" := fun heq => hne (heq.trans h.symm)
    rw [if_pos h, if_neg h', if_neg h']
    cases cache.own.lookup key' with
    | some entry' => exact Iff.rfl
    | none => refine iff_of_false ?_ ?_ <;> (split_ifs <;> exact nofun)
  · rw [if_neg h]
    by_cases h' : key' = "__proto__"
    · rw [if_pos h', if_pos h']
    · rw [if_neg h', if_neg h']
      rw [lookup_setOwn, if_neg hne]

end SymbolCache

namespace NodeIdManager

/-! ### What a node is to get -/

/-- **A node is the one that is created**: it has the browse name and the parent of the options. -/
def SameNode (node : BaseNode U) (options : ConstructNodeIdOptions U)
    (parentInfo : Option (NodeId U × String)) : Prop :=
  node.browseName = options.browseName ∧ node.parentNodeId = parentInfo.map fst

section

variable (s : State U)

/-- **No collision**: an identifier of the namespace is constructed, no other node has it, and it is
not kept for another name. -/
def CollisionFree (options : ConstructNodeIdOptions U) : Prop :=
  ∃ parentInfo nodeId manager, findParentNodeId options = .ok parentInfo ∧
    s.manager.constructNodeId s.space options = .ok (nodeId, manager) ∧
    nodeId.namespaceIndex = s.manager.namespaceIndex ∧
    (∀ node, findNode s.space nodeId = some node → SameNode node options parentInfo) ∧
    ∀ name value, s.manager._cacheSymbolicName.get name = .entry value →
      nodeId.value = .numeric value.1 → name = fullName s.space parentInfo options.browseName

/-- What is expected of an operation: a node that is created without an identifier collides with
nothing. -/
def KeepsAllocation : Operation U → Prop
  | .setSymbols _ => True
  | .createNode options => options.nodeId = none → CollisionFree s options

/-- The name of the options is looked up, when it is to be registered, and its number can be used. -/
def reuse (options : ConstructNodeIdOptions U)
    (parentInfo : Option (NodeId U × String)) : Except String Bool :=
  let cached := s.manager._cacheSymbolicName.get (fullName s.space parentInfo options.browseName)
  if options.registerSymbolicNames && cached.isSet then
    s.manager._isCacheHitReusable s.space cached.value options parentInfo
  else .ok false

/-- A number is left that no node has and that is kept for no name. -/
def HasFreeNumber : Prop :=
  ∃ n, s.manager._internal_id_counter ≤ n ∧ n < 2 ^ 32 ∧
    findNode s.space (makeNodeId (some (ofNat n)) s.manager.namespaceIndex) = none ∧
    ofNat n ∉ s.manager._cacheSymbolicNameRev

/-- The condition for an identifier that is not kept for the name of the node: below a node with a
string, this is a node of the namespace, and no other node has the string with the name; elsewhere
there is a free number. -/
def BuildCondition (options : ConstructNodeIdOptions U)
    (parentInfo : Option (NodeId U × String)) : Prop :=
  match parentInfo with
  | none => HasFreeNumber s
  | some (parentNodeId, _) =>
    match parentNodeId.value with
    | .string value => parentNodeId.namespaceIndex = s.manager.namespaceIndex ∧
        ∀ node, findNode s.space (childNodeId parentNodeId value options.browseName) = some node →
          SameNode node options parentInfo
    | _ => HasFreeNumber s

/-- **When a node that is created without an identifier collides with nothing**: it has one parent
at most, and its name has a number that can be used and that is kept for no other name, or has no
such number and the condition above is met. -/
def AllocationCondition (options : ConstructNodeIdOptions U) : Prop :=
  ∃ parentInfo, findParentNodeId options = .ok parentInfo ∧
    (reuse s options parentInfo = .ok true ∧
        (∀ name value, s.manager._cacheSymbolicName.get name = .entry value →
          value.1 = (s.manager._cacheSymbolicName.get
            (fullName s.space parentInfo options.browseName)).value.getD 0 →
            name = fullName s.space parentInfo options.browseName) ∨
      reuse s options parentInfo = .ok false ∧ BuildCondition s options parentInfo)

/-- The condition for an operation. -/
def StepCondition : Operation U → Prop
  | .setSymbols _ => True
  | .createNode options => options.nodeId = none → AllocationCondition s options

end

/-- **The numbers of the names are kept.** -/
def Reserved (manager : NodeIdManager) : Prop :=
  ∀ name value, manager._cacheSymbolicName.get name = .entry value →
    value.1 ∈ manager._cacheSymbolicNameRev

/-! ### New numbers -/

lemma isInCache_makeNodeId (manager : NodeIdManager) (value : UInt32) :
    manager._isInCache (makeNodeId (U := U) (some value) manager.namespaceIndex) =
      decide (value ∈ manager._cacheSymbolicNameRev) := by
  simp [_isInCache, makeNodeId]

/-- **The loop finds a free number**, when there is one. -/
lemma buildNewNodeIdLoop_spec (manager : NodeIdManager) (space : AddressSpace U) :
    ∀ fuel ctr, fuel = 2 ^ 32 - ctr →
      (∃ n, ctr ≤ n ∧ n < 2 ^ 32 ∧
        findNode space (makeNodeId (some (ofNat n)) manager.namespaceIndex) = none ∧
        ofNat n ∉ manager._cacheSymbolicNameRev ∧
        buildNewNodeIdLoop manager space fuel ctr =
          .ok (makeNodeId (some (ofNat n)) manager.namespaceIndex,
            { manager with _internal_id_counter := n + 1 })) ∨
      ((∃ e, buildNewNodeIdLoop manager space fuel ctr = .error e) ∧
        ¬ ∃ n, ctr ≤ n ∧ n < 2 ^ 32 ∧
          findNode space (makeNodeId (some (ofNat n)) manager.namespaceIndex) = none ∧
          ofNat n ∉ manager._cacheSymbolicNameRev) := by
  intro fuel
  induction fuel with
  | zero =>
    intro ctr hfuel
    refine Or.inr ⟨⟨_, rfl⟩, ?_⟩
    rintro ⟨n, hle, hlt, -⟩
    omega
  | succ fuel ih =>
    intro ctr hfuel
    unfold buildNewNodeIdLoop
    dsimp only
    rw [isInCache_makeNodeId]
    by_cases hused : ((findNode space (makeNodeId (some (ofNat ctr))
        manager.namespaceIndex)).isSome ||
          decide (ofNat ctr ∈ manager._cacheSymbolicNameRev)) = true
    · rw [if_pos hused]
      obtain ⟨n, hle, hrest⟩ | ⟨herror, hnone⟩ := ih (ctr + 1) (by omega)
      · exact Or.inl ⟨n, by omega, hrest⟩
      · refine Or.inr ⟨herror, ?_⟩
        rintro ⟨n, hle, hlt, hfree, hkept⟩
        rcases Nat.eq_or_lt_of_le hle with rfl | hless
        · simp [hfree, hkept] at hused
        · exact hnone ⟨n, hless, hlt, hfree, hkept⟩
    · rw [if_neg hused]
      rw [Bool.not_eq_true, Bool.or_eq_false_iff, Option.isSome_eq_false_iff,
        Option.isNone_iff_eq_none, decide_eq_false_iff_not] at hused
      exact Or.inl ⟨ctr, le_rfl, by omega, hused.1, hused.2, rfl⟩

/-- **A new number** is free, and there is one exactly when one is left. -/
lemma buildNewNodeId_spec (s : State U) :
    (∃ n, findNode s.space (makeNodeId (some (ofNat n)) s.manager.namespaceIndex) = none ∧
      ofNat n ∉ s.manager._cacheSymbolicNameRev ∧ HasFreeNumber s ∧
      s.manager.buildNewNodeId s.space =
        .ok (makeNodeId (some (ofNat n)) s.manager.namespaceIndex,
          { s.manager with _internal_id_counter := n + 1 })) ∨
    ((∃ e, s.manager.buildNewNodeId s.space = .error e) ∧ ¬ HasFreeNumber s) := by
  obtain ⟨n, hle, hlt, hfree, hkept, hcall⟩ | ⟨herror, hnone⟩ :=
    buildNewNodeIdLoop_spec s.manager s.space _ s.manager._internal_id_counter rfl
  · exact Or.inl ⟨n, hfree, hkept, ⟨n, hle, hlt, hfree, hkept⟩, hcall⟩
  · exact Or.inr ⟨herror, hnone⟩

/-! ### The construction -/

variable {options : ConstructNodeIdOptions U} {parentInfo : Option (NodeId U × String)}
    {s : State U}

section

variable (hnodeId : options.nodeId = none) (hpar : findParentNodeId options = .ok parentInfo)
include hnodeId hpar

/-- **The construction for a node without an identifier**: the number of its name is used, or an
identifier is built, whose number is then kept for the name. -/
lemma constructNodeId_eq :
    s.manager.constructNodeId s.space options =
      match reuse s options parentInfo with
      | .error e => .error e
      | .ok true => .ok (makeNodeId (s.manager._cacheSymbolicName.get
          (fullName s.space parentInfo options.browseName)).value s.manager.namespaceIndex, s.manager)
      | .ok false => (s.manager._constructNodeId s.space options).map fun built =>
          (built.1, if options.registerSymbolicNames then
            built.2.register (fullName s.space parentInfo options.browseName) options.nodeClass
              built.1
            else built.2) := by
  unfold constructNodeId reuse
  rw [hnodeId, hpar]
  simp only [bind, Except.bind]
  generalize s.manager._cacheSymbolicName.get
    (fullName s.space parentInfo options.browseName) = cached
  cases options.registerSymbolicNames with
  | false =>
    cases s.manager._constructNodeId s.space options <;> rfl
  | true =>
    cases cached.isSet with
    | false =>
      cases s.manager._constructNodeId s.space options <;> rfl
    | true =>
      cases s.manager._isCacheHitReusable s.space cached.value options parentInfo with
      | error e => rfl
      | ok reused =>
        cases reused with
        | true => rfl
        | false =>
          cases s.manager._constructNodeId s.space options <;> rfl

/-- **An identifier is built** from the string of the parent, or has a new number. -/
lemma _constructNodeId_cases :
    (∃ parentNodeId suffix value, parentInfo = some (parentNodeId, suffix) ∧
      parentNodeId.value = .string value ∧ s.manager._constructNodeId s.space options =
        .ok (childNodeId parentNodeId value options.browseName, s.manager) ∧
      (BuildCondition s options parentInfo ↔
        parentNodeId.namespaceIndex = s.manager.namespaceIndex ∧
          ∀ node, findNode s.space (childNodeId parentNodeId value options.browseName) = some node →
            SameNode node options parentInfo)) ∨
    (s.manager._constructNodeId s.space options = s.manager.buildNewNodeId s.space ∧
      (BuildCondition s options parentInfo ↔ HasFreeNumber s)) := by
  unfold _constructNodeId BuildCondition
  rw [hnodeId, hpar]
  rcases parentInfo with _ | ⟨parentNodeId, suffix⟩
  · exact Or.inr ⟨rfl, Iff.rfl⟩
  · dsimp only
    cases hvalue : parentNodeId.value with
    | string value => exact Or.inl ⟨parentNodeId, suffix, value, rfl, hvalue, rfl, Iff.rfl⟩
    | numeric value | guid value | byteString value => exact Or.inr ⟨rfl, Iff.rfl⟩

end

lemma sameNode_of_reusable {value : Option UInt32}
    (h : s.manager._isCacheHitReusable s.space value options parentInfo = .ok true)
    {node : BaseNode U}
    (hnode : findNode s.space (makeNodeId value s.manager.namespaceIndex) = some node) :
    SameNode node options parentInfo := by
  unfold _isCacheHitReusable at h
  rw [hnode] at h
  dsimp only at h
  unfold SameNode
  rcases parentInfo with _ | ⟨expectedParentNodeId, suffix⟩
  · simpa [Option.isNone_iff_eq_none] using h
  · cases hpar : node.parentNodeId with
    | none =>
      rw [hpar] at h
      exact absurd h (by simp)
    | some parentNodeId =>
      rw [hpar] at h
      dsimp only at h
      cases hsame : sameNodeId parentNodeId expectedParentNodeId with
      | error e =>
        rw [hsame] at h
        exact nomatch h
      | ok sameParent =>
        rw [hsame] at h
        obtain ⟨hname, rfl⟩ : node.browseName = options.browseName ∧ sameParent = true := by
          simpa [Except.map] using h
        exact ⟨hname, congrArg some ((sameNodeId_eq_true_iff _ _).mp hsame).1⟩

lemma sameNode_of_reuse (h : reuse s options parentInfo = .ok true) {node : BaseNode U}
    (hnode : findNode s.space (makeNodeId (s.manager._cacheSymbolicName.get
      (fullName s.space parentInfo options.browseName)).value s.manager.namespaceIndex) =
        some node) : SameNode node options parentInfo := by
  unfold reuse at h
  dsimp only at h
  split_ifs at h
  · exact sameNode_of_reusable h hnode
  · exact nomatch h

/-- **When the identifier of a node collides with nothing**. -/
theorem collisionFree_iff (hresv : Reserved s.manager) (hnodeId : options.nodeId = none) :
    CollisionFree s options ↔ AllocationCondition s options := by
  constructor
  · rintro ⟨parentInfo, nodeId, manager, hpar, hcall, hns, hnode, hname⟩
    refine ⟨parentInfo, hpar, ?_⟩
    rw [constructNodeId_eq hnodeId hpar] at hcall
    match hreuse : reuse s options parentInfo with
    | .error e =>
      rw [hreuse] at hcall
      exact nomatch hcall
    | .ok true =>
      rw [hreuse] at hcall
      obtain ⟨rfl, -⟩ := Prod.mk.inj (Except.ok.inj hcall)
      exact Or.inl ⟨rfl, fun name value hget hvalue =>
        hname name value hget (congrArg Identifier.numeric hvalue.symm)⟩
    | .ok false =>
      rw [hreuse] at hcall
      refine Or.inr ⟨rfl, ?_⟩
      obtain ⟨parentNodeId, suffix, value, -, -, hbuilt, hcond⟩ | ⟨hbuilt, hcond⟩ :=
        _constructNodeId_cases hnodeId hpar
      · rw [hbuilt] at hcall
        obtain ⟨rfl, -⟩ := Prod.mk.inj (Except.ok.inj hcall)
        exact hcond.mpr ⟨hns, hnode⟩
      · rw [hcond]
        obtain ⟨n, -, -, hfree, -⟩ | ⟨⟨e, herror⟩, -⟩ := buildNewNodeId_spec s
        · exact hfree
        · rw [hbuilt, herror] at hcall
          exact nomatch hcall
  · rintro ⟨parentInfo, hpar, hcases⟩
    have hcall := constructNodeId_eq (s := s) hnodeId hpar
    obtain ⟨hreuse, hname⟩ | ⟨hreuse, hcond⟩ := hcases
    · rw [hreuse] at hcall
      exact ⟨parentInfo, _, _, hpar, hcall, rfl, fun node => sameNode_of_reuse hreuse,
        fun name value hget hvalue => hname name value hget (Identifier.numeric.inj hvalue).symm⟩
    · rw [hreuse] at hcall
      obtain ⟨parentNodeId, suffix, value, -, -, hbuilt, hiff⟩ | ⟨hbuilt, hiff⟩ :=
        _constructNodeId_cases (s := s) hnodeId hpar
      · obtain ⟨hns, hnode⟩ := hiff.mp hcond
        rw [hbuilt] at hcall
        exact ⟨parentInfo, _, _, hpar, hcall, hns, hnode, fun _ _ _ h => nomatch h⟩
      · obtain ⟨n, hfree, hkept, -, hnew⟩ | ⟨-, hnone⟩ := buildNewNodeId_spec s
        · rw [hbuilt, hnew] at hcall
          refine ⟨parentInfo, _, _, hpar, hcall, rfl, fun node hnode => ?_,
            fun name value hget hvalue => ?_⟩
          · exact absurd (hfree.symm.trans hnode) nofun
          · -- a number that is not kept is kept for no name
            have hvalue' : ofNat n = value.1 := Identifier.numeric.inj hvalue
            exact absurd (hresv name value hget) (hvalue' ▸ hkept)
        · exact absurd (hiff.mp hcond) hnone

/-! ### Runs -/

variable {manager : NodeIdManager}

lemma reserved_set (h : Reserved manager) (name : String) (entry : SymbolEntry) :
    Reserved { manager with
      _cacheSymbolicName := manager._cacheSymbolicName.set name entry
      _cacheSymbolicNameRev := entry.1 :: manager._cacheSymbolicNameRev } := by
  intro name' value hget
  by_cases hname : name' = name
  · rw [hname] at hget
    obtain rfl : entry = value := by
      have hself := manager._cacheSymbolicName.get_set_self name entry
      exact CachedSymbol.entry.inj (hself.symm.trans hget)
    exact List.mem_cons_self
  · exact List.mem_cons_of_mem _
      (h name' value ((manager._cacheSymbolicName.get_set_of_ne hname entry value).mp hget))

lemma reserved_register (h : Reserved manager) (name : String)
    (nodeClass : Option NodeClass) (nodeId : NodeId U) :
    Reserved (manager.register name nodeClass nodeId) := by
  unfold register
  split
  · split_ifs
    · exact h
    · exact reserved_set h name _
  · exact h

lemma reserved_setSymbols (h : Reserved manager)
    (symbols : List NodeEntry) : Reserved (manager.setSymbols symbols) := by
  induction symbols generalizing manager with
  | nil => exact h
  | cons entry symbols ih => exact ih (reserved_set h entry.1 entry.2)

variable {nodeId : NodeId U}

lemma reserved_construct (h : Reserved s.manager)
    (hcall : s.manager._constructNodeId s.space options = .ok (nodeId, manager)) :
    Reserved manager := by
  have hnew : ∀ built, s.manager.buildNewNodeId s.space = .ok built → Reserved built.2 := by
    intro built hbuilt
    obtain ⟨n, -, -, -, hcall⟩ | ⟨⟨e, herror⟩, -⟩ := buildNewNodeId_spec s
    · rw [hcall] at hbuilt
      obtain rfl := Except.ok.inj hbuilt
      exact h
    · exact nomatch herror.symm.trans hbuilt
  cases hnodeId : options.nodeId with
  | some explicit =>
    unfold _constructNodeId at hcall
    rw [hnodeId] at hcall
    dsimp only at hcall
    split_ifs at hcall
    obtain ⟨-, rfl⟩ := Prod.mk.inj (Except.ok.inj hcall)
    exact h
  | none =>
    cases hpar : findParentNodeId options with
    | error e =>
      unfold _constructNodeId at hcall
      rw [hnodeId, hpar] at hcall
      exact nomatch hcall
    | ok parentInfo =>
      obtain ⟨parentNodeId, suffix, value, -, -, hbuilt, -⟩ | ⟨hbuilt, -⟩ :=
        _constructNodeId_cases (s := s) hnodeId hpar
      · rw [hbuilt] at hcall
        obtain ⟨-, rfl⟩ := Prod.mk.inj (Except.ok.inj hcall)
        exact h
      · rw [hbuilt] at hcall
        exact hnew _ hcall

/-- **What becomes of the manager**: it stays as it is, or it builds an identifier and may keep the
number of it. -/
lemma constructNodeId_manager
    (h : s.manager.constructNodeId s.space options = .ok (nodeId, manager)) :
    manager = s.manager ∨ ∃ built, s.manager._constructNodeId s.space options = .ok (nodeId, built) ∧
      (manager = built ∨ ∃ name, manager = built.register name options.nodeClass nodeId) := by
  cases hnodeId : options.nodeId with
  | none =>
    cases hpar : findParentNodeId options with
    | error e =>
      simp [constructNodeId, _constructNodeId, hnodeId, hpar, bind, Except.bind] at h
    | ok parentInfo =>
      rw [constructNodeId_eq hnodeId hpar] at h
      match hreuse : reuse s options parentInfo with
      | .error e =>
        rw [hreuse] at h
        exact nomatch h
      | .ok true =>
        rw [hreuse] at h
        obtain ⟨-, rfl⟩ := Prod.mk.inj (Except.ok.inj h)
        exact Or.inl rfl
      | .ok false =>
        rw [hreuse] at h
        cases hbuilt : s.manager._constructNodeId s.space options with
        | error e =>
          rw [hbuilt] at h
          exact nomatch h
        | ok built =>
          rw [hbuilt] at h
          obtain ⟨rfl, rfl⟩ := Prod.mk.inj (Except.ok.inj h)
          refine Or.inr ⟨built.2, rfl, ?_⟩
          split_ifs
          · exact Or.inr ⟨_, rfl⟩
          · exact Or.inl rfl
  | some explicit =>
    unfold constructNodeId at h
    simp only [hnodeId, Option.isNone_some, Bool.false_and, false_eq_true, if_false, bind,
      Except.bind, pure, Except.pure] at h
    cases hbuilt : s.manager._constructNodeId s.space options with
    | error e =>
      rw [hbuilt] at h
      exact nomatch h
    | ok built =>
      rw [hbuilt] at h
      dsimp only at h
      split_ifs at h
      · split at h
        · cases hpar : findParentNodeId options with
          | error e =>
            rw [hpar] at h
            exact nomatch h
          | ok parentInfo =>
            rw [hpar] at h
            obtain ⟨rfl, rfl⟩ := Prod.mk.inj (Except.ok.inj h)
            exact Or.inr ⟨built.2, rfl, Or.inr ⟨_, rfl⟩⟩
        · obtain ⟨rfl, rfl⟩ := Prod.mk.inj (Except.ok.inj h)
          exact Or.inr ⟨built.2, rfl, Or.inl rfl⟩
      · obtain ⟨rfl, rfl⟩ := Prod.mk.inj (Except.ok.inj h)
        exact Or.inr ⟨built.2, rfl, Or.inl rfl⟩

lemma reserved_constructNodeId (h : Reserved s.manager)
    (hcall : s.manager.constructNodeId s.space options = .ok (nodeId, manager)) :
    Reserved manager := by
  obtain rfl | ⟨built, hbuilt, rfl | ⟨name, rfl⟩⟩ := constructNodeId_manager hcall
  · exact h
  · exact reserved_construct h hbuilt
  · exact reserved_register (reserved_construct h hbuilt) name _ nodeId

/-- **One operation** keeps the numbers of the names. -/
lemma reserved_step (h : Reserved s.manager) (op : Operation U) :
    Reserved (step s op).1.manager := by
  cases op with
  | setSymbols symbols => exact reserved_setSymbols h symbols
  | createNode options =>
    unfold step createNode
    dsimp only
    cases hcall : s.manager.constructNodeId s.space options with
    | error e => exact h
    | ok result =>
      have hman := reserved_constructNodeId h hcall
      dsimp only
      cases result.2._register s.space (newNode s.space options result.1) with
      | error e => exact hman
      | ok space => exact hman

/-- **The runs of a namespace**, from a new manager and any nodes: the nodes that are created without
an identifier collide with nothing exactly when each of them meets its condition. -/
theorem run_collisionFree_iff (namespaceIndex : UInt16) (space : AddressSpace U)
    (operations : List (Operation U)) :
    Mealy.Along step KeepsAllocation ⟨{ namespaceIndex }, space⟩ operations ↔
      Mealy.Along step StepCondition ⟨{ namespaceIndex }, space⟩ operations := by
  have hnew : Reserved { namespaceIndex } := by
    intro name value hget
    simp only [SymbolCache.get, List.lookup_nil] at hget
    split_ifs at hget
  refine Mealy.along_iff step (I := fun s => Reserved s.manager) ?_ ?_ hnew operations
  · exact fun s operation hresv _ => reserved_step hresv operation
  · intro s operation hresv
    cases operation with
    | setSymbols symbols => exact Iff.rfl
    | createNode options =>
      exact forall_congr' fun hnodeId => collisionFree_iff hresv hnodeId

lemma nodeId_of_constructed
    (hcall : s.manager.constructNodeId s.space options = .ok (nodeId, manager)) {value : NodeId U}
    (hvalue : (s.manager.constructNodeId s.space options).toOption.map fst = some value) :
    nodeId = value := by
  rw [hcall] at hvalue
  exact Option.some.inj hvalue

/-- **Two runs that fail**. Below a node with the string `A`, the names `B C` and `BC` give the same
string. Below a node of another namespace with a string, the identifier is of that namespace. -/
theorem runs_not_collisionFree :
    let parent (namespaceIndex : UInt16) : BaseNode .ascii :=
      { nodeId := ⟨namespaceIndex, .string "A"⟩, browseName := ⟨namespaceIndex, some "A"⟩, parents := [] }
    let child (namespaceIndex : UInt16) (name : String) : Operation .ascii :=
      .createNode
        { nodeId := none
          browseName := ⟨1, some name⟩
          nodeClass := some .Variable
          references := [⟨.aggregates, false, ⟨namespaceIndex, .string "A"⟩⟩]
          registerSymbolicNames := false }
    (¬ Mealy.Along step KeepsAllocation ⟨{ namespaceIndex := 1 }, [parent 1]⟩
        [child 1 "B C", child 1 "BC"]) ∧
      ¬ Mealy.Along step KeepsAllocation ⟨{ namespaceIndex := 1 }, [parent 2]⟩ [child 2 "B"] := by
  refine ⟨fun h => ?_, fun h => ?_⟩
  · obtain ⟨parentInfo, nodeId, manager, -, hcall, -, hnode, -⟩ := h.2.1 rfl
    obtain rfl := nodeId_of_constructed hcall
      (show _ = some ⟨1, .string "A-BC"⟩ by decide +kernel)
    obtain ⟨hname, -⟩ := hnode _ rfl
    exact absurd hname (by decide +kernel)
  · obtain ⟨parentInfo, nodeId, manager, -, hcall, hns, -⟩ := h.1 rfl
    obtain rfl := nodeId_of_constructed hcall
      (show _ = some ⟨2, .string "A-B"⟩ by decide +kernel)
    exact absurd hns (by decide)

end NodeIdManager

end NodeOpcua
