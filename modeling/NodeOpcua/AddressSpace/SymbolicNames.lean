import NodeOpcua.AddressSpace.NodeIdAllocation

set_option autoImplicit false

/-!
# Symbolic names are stable

The symbols of a namespace are saved and loaded into a new manager, and its nodes are created once
more. They are to get the identifiers that they had.

## Main definitions

* `NodePath`, `NodePath.symbol`, `NodePath.createNodes`, `NodePath.ParentsFirst`.

## Design

* The nodes are created with symbolic names. In the first run a node may have an explicit number.
-/

namespace NodeOpcua

open BuiltIn NodeIdManager
open CachedSymbol (isSet)
open Function (update update_self update_of_ne)
open List (map_cons nodup_cons mem_cons_self mem_cons_of_mem mem_cons not_mem_nil)
open Prod (fst snd)

variable {U : CaseMapping}

/-! ### Nodes by their names -/

/-- The kinds of references to a parent. -/
inductive ParentKind
  | aggregates
  | hasEncoding
  | hasEncodingSubtype
  deriving DecidableEq, Repr

namespace ParentKind

/-- The kind of the reference. -/
def reference : ParentKind → ReferenceKind
  | aggregates => .aggregates
  | hasEncoding => .hasEncoding
  | hasEncodingSubtype => .hasEncodingSubtype

/-- The suffix of the names above. -/
def suffix : ParentKind → String
  | hasEncoding => "_Encoding"
  | _ => ""

end ParentKind

/-- **A node that is created**, by its browse name and its parent: it has none, or a node that is
there already, or one of the nodes that are created. -/
inductive NodePath (U : CaseMapping)
  | top (browseName : QualifiedName)
  | under (parent : NodeId U) (kind : ParentKind) (browseName : QualifiedName)
  | child (parent : NodePath U) (kind : ParentKind) (browseName : QualifiedName)
  deriving DecidableEq

/-! ### Symbols that are saved and loaded -/

namespace SymbolCache

variable {own : List (String × SymbolEntry)}

lemma lookup_eq_some_iff (hkeys : (own.map fst).Nodup)
    {key : String} {entry : SymbolEntry} : own.lookup key = some entry ↔ (key, entry) ∈ own := by
  induction own with
  | nil => simp
  | cons e own ih =>
    obtain ⟨key', entry'⟩ := e
    rw [map_cons, nodup_cons] at hkeys
    rw [List.lookup_cons]
    by_cases h : key = key'
    · subst h
      have hnot : (key, entry) ∉ own := fun hmem => hkeys.1 (List.mem_map.mpr ⟨_, hmem, rfl⟩)
      simp [hnot, eq_comm]
    · simp [beq_false_of_ne h, h, ih hkeys.2]

lemma keys_setOwn (key : String) (entry : SymbolEntry) (own : List (String × SymbolEntry)) :
    (setOwn key entry own).map fst =
      if key ∈ own.map fst then own.map fst else own.map fst ++ [key] := by
  induction own with
  | nil => rfl
  | cons e own ih =>
    obtain ⟨key', entry'⟩ := e
    unfold setOwn
    by_cases h : key' = key
    · rw [if_pos h]
      simp [h]
    · rw [if_neg h, map_cons, ih]
      have h' : key ≠ key' := fun heq => h heq.symm
      by_cases hmem : key ∈ own.map fst
      · rw [if_pos hmem, if_pos (by simpa [h'] using hmem)]
        rfl
      · rw [if_neg hmem, if_neg (by simpa [h'] using hmem)]
        rfl

lemma nodup_setOwn (key : String) (entry : SymbolEntry)
    (hkeys : (own.map fst).Nodup) : ((setOwn key entry own).map fst).Nodup := by
  rw [keys_setOwn]
  split_ifs with hmem
  · exact hkeys
  · exact List.nodup_append.mpr ⟨hkeys, List.nodup_singleton key, fun a ha b hb hab => hmem
      (by rwa [← List.mem_singleton.mp hb, ← hab])⟩

/-- **The properties of the object** are its own ones. -/
lemma mem_entries_iff (cache : SymbolCache) (e : String × SymbolEntry) :
    e ∈ cache.entries ↔ e ∈ cache.own := by
  unfold entries
  rw [List.mem_append, List.mem_insertionSort, List.mem_filter, List.mem_filter]
  cases arrayIndex e.1 <;> simp

/-- A name that is no member of the prototypes. -/
def Plain (name : String) : Prop := name ≠ "__proto__" ∧ name ∉ objectMembers

instance (name : String) : Decidable (Plain name) :=
  inferInstanceAs (Decidable (name ≠ "__proto__" ∧ name ∉ objectMembers))

lemma get_eq_entry_iff (cache : SymbolCache) {name : String} (h : Plain name) (entry : SymbolEntry) :
    cache.get name = .entry entry ↔ cache.own.lookup name = some entry := by
  unfold get
  rw [if_neg h.1]
  cases cache.own.lookup name with
  | some entry' => simp
  | none =>
    refine iff_of_false ?_ nofun
    split_ifs <;> exact nofun

lemma get_eq_missing {cache : SymbolCache} {name : String} (h : Plain name)
    (hproto : cache.prototype = none) (hlook : cache.own.lookup name = none) :
    cache.get name = .missing := by
  unfold get
  rw [if_neg h.1, hlook, hproto]
  simp [isInherited, h.2]

end SymbolCache

namespace NodeIdManager

open SymbolCache

variable {manager : NodeIdManager} {symbols : List NodeEntry}

/-- **What is loaded**: a name that is loaded with one entry, or not loaded. -/
lemma lookup_setSymbols (hproto : ∀ e ∈ symbols, e.1 ≠ "__proto__")
    (hkeys : (symbols.map fst).Nodup) (name : String) :
    (manager.setSymbols symbols)._cacheSymbolicName.own.lookup name =
      (symbols.lookup name).or (manager._cacheSymbolicName.own.lookup name) := by
  induction symbols generalizing manager with
  | nil => rfl
  | cons e symbols ih =>
    obtain ⟨name', value⟩ := e
    rw [map_cons, nodup_cons] at hkeys
    have hown : (manager._cacheSymbolicName.set name' value).own =
        setOwn name' value manager._cacheSymbolicName.own := by
      rw [SymbolCache.set, if_neg (hproto _ mem_cons_self)]
    rw [setSymbols, ih (fun e he => hproto e (mem_cons_of_mem _ he)) hkeys.2]
    rw [hown, lookup_setOwn, List.lookup_cons]
    by_cases h : name = name'
    · have hnone : symbols.lookup name = none := by
        rw [List.lookup_eq_none_iff]
        rintro ⟨name'', value'⟩ hmem
        have hne : name'' ≠ name' := fun heq => hkeys.1 (List.mem_map.mpr ⟨_, hmem, heq⟩)
        simpa [h] using hne.symm
      simp [h, h ▸ hnone]
    · simp [h, beq_false_of_ne h]

lemma prototype_setSymbols (hproto : ∀ e ∈ symbols, e.1 ≠ "__proto__") :
    (manager.setSymbols symbols)._cacheSymbolicName.prototype =
      manager._cacheSymbolicName.prototype := by
  induction symbols generalizing manager with
  | nil => rfl
  | cons e symbols ih =>
    rw [setSymbols, ih fun e he => hproto e (mem_cons_of_mem _ he)]
    rw [SymbolCache.set, if_neg (hproto _ mem_cons_self)]

lemma namespaceIndex_setSymbols (manager : NodeIdManager) (symbols : List NodeEntry) :
    (manager.setSymbols symbols).namespaceIndex = manager.namespaceIndex := by
  induction symbols generalizing manager with
  | nil => rfl
  | cons e symbols ih => exact ih _

/-- **Symbols that are saved and loaded** are those of the object. -/
lemma lookup_loaded {namespaceIndex : UInt16}
    (hkeys : (manager._cacheSymbolicName.own.map fst).Nodup)
    (hproto : ∀ e ∈ manager._cacheSymbolicName.own, e.1 ≠ "__proto__") (name : String) :
    (setSymbols { namespaceIndex } manager.getSymbols)._cacheSymbolicName.own.lookup name =
      manager._cacheSymbolicName.own.lookup name := by
  have hsymbols : manager.getSymbols = manager._cacheSymbolicName.entries := List.map_id _
  have hperm : manager._cacheSymbolicName.entries.Perm manager._cacheSymbolicName.own := by
    refine ((List.perm_insertionSort _ _).append_right _).trans ?_
    have hnot : (fun e : String × SymbolEntry => (arrayIndex e.1).isNone) =
        fun e => !(arrayIndex e.1).isSome := by
      funext e
      cases arrayIndex e.1 <;> rfl
    rw [hnot]
    exact List.filter_append_perm _ _
  have hkeys' : (manager._cacheSymbolicName.entries.map fst).Nodup :=
    (hperm.map fst).nodup_iff.mpr hkeys
  rw [hsymbols, lookup_setSymbols (fun e he => hproto e (hperm.mem_iff.mp he)) hkeys']
  rw [List.lookup_nil, Option.or_none]
  refine Option.ext fun entry => ?_
  rw [lookup_eq_some_iff hkeys', lookup_eq_some_iff hkeys, hperm.mem_iff]

end NodeIdManager

namespace NodePath

/-- The browse name. -/
def browseName : NodePath U → QualifiedName
  | top browseName => browseName
  | under _ _ browseName => browseName
  | child _ _ browseName => browseName

/-- The names of a node and of those above it in the namespace. -/
def chainNames (namespaceIndex : UInt16) (node : BaseNode U) : List QualifiedName :=
  (((node.nodeId, node.browseName) :: node.parents).takeWhile
    fun e => e.1.namespaceIndex = namespaceIndex).map snd

section

variable (namespaceIndex : UInt16) (space : AddressSpace U)

/-- The names of a node that is created and of those above it in the namespace. -/
def names : NodePath U → List QualifiedName
  | top browseName => [browseName]
  | under parent kind browseName =>
    browseName :: if kind = .aggregates then
      match findNode space parent with
      | none => []
      | some node => chainNames namespaceIndex node
    else []
  | child parent kind browseName =>
    browseName :: if kind = .aggregates then parent.names else []

/-- The joined names of a node and of those above it. -/
def join (suffix : String) (names : List QualifiedName) : String :=
  names.foldl (fun name browseName => compose (prepareName browseName ++ suffix) name) ""

/-- **The symbolic name**. -/
def symbol : NodePath U → String
  | top browseName => compose "" (prepareName browseName)
  | under parent kind browseName =>
    compose (buildUpName2 space parent kind.suffix) (prepareName browseName)
  | child parent kind browseName =>
    compose (join kind.suffix (parent.names namespaceIndex space)) (prepareName browseName)

end

/-- The reference to the parent, when the parent was created. -/
def references (ids : NodePath U → Option (NodeId U)) : NodePath U → Option (List (NodeReference U))
  | top _ => some []
  | under parent kind _ => some [⟨kind.reference, false, parent⟩]
  | child parent kind _ => (ids parent).map fun nodeId => [⟨kind.reference, false, nodeId⟩]

/-- The identifier of the parent, when the parent was created. -/
def parentId (ids : NodePath U → Option (NodeId U)) : NodePath U → Option (NodeId U)
  | top _ => none
  | under parent _ _ => some parent
  | child parent _ _ => ids parent

/-- The options that a node is created with. -/
def optionsOf (namespaceIndex : UInt16) (explicit : Option UInt32) (nodeClass : Option NodeClass)
    (path : NodePath U) (references : List (NodeReference U)) : ConstructNodeIdOptions U where
  nodeId := explicit.map fun value => ⟨namespaceIndex, .numeric value⟩
  browseName := path.browseName
  nodeClass := nodeClass
  references := references
  registerSymbolicNames := true

/-- **The nodes are created** one after the other, which fails when one of them cannot be. -/
def createNodes (explicit : NodePath U → Option UInt32) (nodeClass : NodePath U → Option NodeClass) :
    State U → (NodePath U → Option (NodeId U)) → List (NodePath U) →
      Option (State U × (NodePath U → Option (NodeId U)))
  | s, ids, [] => some (s, ids)
  | s, ids, path :: order =>
    match path.references ids with
    | none => none
    | some references =>
      match createNode s
        (path.optionsOf s.manager.namespaceIndex (explicit path) (nodeClass path) references) with
      | (_, .error _) => none
      | (s, .ok nodeId) =>
        createNodes explicit nodeClass s (update ids path (some nodeId)) order

/-- The parent of a node was created, or was there. -/
def ParentReady (space : AddressSpace U) (done : List (NodePath U)) : NodePath U → Prop
  | top _ => True
  | under parent _ _ => (findNode space parent).isSome = true
  | child parent _ _ => parent ∈ done

/-- **Every node comes after its parent.** -/
def ParentsFirst (space : AddressSpace U) : List (NodePath U) → List (NodePath U) → Prop
  | _, [] => True
  | done, path :: order => ParentReady space done path ∧ ParentsFirst space (path :: done) order

/-! ### The nodes of an address space -/

/-- Identifiers that an address space does not tell apart. -/
def SameKey (a b : NodeId U) : Prop :=
  a.namespaceIndex = b.namespaceIndex ∧ _makeHashKey a = _makeHashKey b

variable {nodeId : NodeId U} {space : AddressSpace U}

lemma findNode_eq_none_iff :
    findNode space nodeId = none ↔ ∀ node ∈ space, ¬ SameKey node.nodeId nodeId := by
  simp [findNode, SameKey]

lemma findNode_cons_self (node : BaseNode U) (space : AddressSpace U) :
    findNode (node :: space) node.nodeId = some node := by
  simp [findNode]

/-- **A node that is added** hides no other one, when its identifier is new. -/
lemma findNode_cons_of_some {node : BaseNode U}
    (hnew : findNode space node.nodeId = none) {found : BaseNode U}
    (h : findNode space nodeId = some found) : findNode (node :: space) nodeId = some found := by
  have hdiffer : ¬ SameKey node.nodeId nodeId := by
    rintro ⟨hns, hkey⟩
    have heq : findNode space node.nodeId = findNode space nodeId := by
      unfold findNode
      rw [hns, hkey]
    exact absurd (hnew.symm.trans (heq.trans h)) nofun
  unfold findNode at h ⊢
  rw [List.find?_cons_of_neg]
  · exact h
  · simpa [SameKey] using hdiffer

/-! ### Symbolic names -/

lemma buildUpNames_eq (namespaceIndex : UInt16) (suffix : String)
    (chain : List (NodeId U × QualifiedName)) (name : String) :
    buildUpNames namespaceIndex suffix chain name =
      ((chain.takeWhile fun e => e.1.namespaceIndex = namespaceIndex).map snd).foldl
        (fun name browseName => compose (prepareName browseName ++ suffix) name) name := by
  induction chain generalizing name with
  | nil => rfl
  | cons e chain ih =>
    obtain ⟨nodeId, browseName⟩ := e
    unfold buildUpNames
    by_cases h : nodeId.namespaceIndex = namespaceIndex
    · rw [if_pos h, ih, List.takeWhile_cons_of_pos (by simpa using h)]
      rfl
    · rw [if_neg h, List.takeWhile_cons_of_neg (by simpa using h)]
      rfl

/-- **The nodes are in their places**: those that were created are found and have the names of their
paths above them, and those that were there are found. -/
structure Placed (namespaceIndex : UInt16) (start : AddressSpace U)
    (ids : NodePath U → Option (NodeId U)) (space : AddressSpace U) : Prop where
  created : ∀ path nodeId, ids path = some nodeId → nodeId.namespaceIndex = namespaceIndex ∧
    ∃ node, findNode space nodeId = some node ∧
      chainNames namespaceIndex node = path.names namespaceIndex start
  existing : ∀ nodeId node, findNode start nodeId = some node → findNode space nodeId = some node

section

variable {namespaceIndex : UInt16} {start : AddressSpace U} {ids : NodePath U → Option (NodeId U)}
  {s : State U} {path : NodePath U}

lemma findParentNodeId_optionsOf {kind : ParentKind} {nodeId : NodeId U} {explicit : Option UInt32}
    {nodeClass : Option NodeClass} :
    findParentNodeId
        (path.optionsOf namespaceIndex explicit nodeClass [⟨kind.reference, false, nodeId⟩]) =
      .ok (some (nodeId, kind.suffix)) := by
  cases kind <;> rfl

variable {references : List (NodeReference U)}

/-- **The name that is looked up** is the symbolic name of the node. -/
lemma fullName_eq (hplc : Placed namespaceIndex start ids s.space)
    (hrefs : path.references ids = some references)
    (hpar : ∀ parent kind browseName, path = under parent kind browseName →
      (findNode start parent).isSome = true)
    (explicit : Option UInt32) (nodeClass : Option NodeClass) :
    ∃ parentInfo,
      findParentNodeId (path.optionsOf namespaceIndex explicit nodeClass references) =
        .ok parentInfo ∧
      parentInfo.map fst = path.parentId ids ∧
      fullName s.space parentInfo path.browseName = path.symbol namespaceIndex start := by
  cases path with
  | top browseName =>
    obtain rfl := Option.some.inj hrefs
    exact ⟨none, rfl, rfl, rfl⟩
  | under parent kind browseName =>
    obtain rfl := Option.some.inj hrefs
    obtain ⟨node, hnode⟩ := Option.isSome_iff_exists.mp (hpar parent kind browseName rfl)
    refine ⟨some (parent, kind.suffix), findParentNodeId_optionsOf, rfl, ?_⟩
    simp only [fullName, buildUpName2, symbol, hnode, hplc.existing parent node hnode]
    rfl
  | child parent kind browseName =>
    obtain ⟨nodeId, hid, rfl⟩ := Option.map_eq_some_iff.mp hrefs
    obtain ⟨hns, node, hnode, hnames⟩ := hplc.created parent nodeId hid
    refine ⟨some (nodeId, kind.suffix), findParentNodeId_optionsOf, hid.symm, ?_⟩
    simp only [fullName, buildUpName2, symbol, hnode, buildUpNames_eq, hns]
    rw [← hnames]
    rfl

lemma chainNames_eq {node : BaseNode U} (hns : node.nodeId.namespaceIndex = namespaceIndex) :
    chainNames namespaceIndex node = node.browseName ::
      (node.parents.takeWhile fun e => e.1.namespaceIndex = namespaceIndex).map snd := by
  simp [chainNames, hns]

/-- **The names above a new node** are those of its path. -/
lemma chainNames_newNode (hplc : Placed namespaceIndex start ids s.space)
    (hrefs : path.references ids = some references)
    (hpar : ∀ parent kind browseName, path = under parent kind browseName →
      (findNode start parent).isSome = true)
    (explicit : Option UInt32) (nodeClass : Option NodeClass) {nodeId : NodeId U}
    (hns : nodeId.namespaceIndex = namespaceIndex) :
    chainNames namespaceIndex
        (newNode s.space (path.optionsOf namespaceIndex explicit nodeClass references) nodeId) =
      path.names namespaceIndex start := by
  rw [chainNames_eq (show (newNode s.space (path.optionsOf namespaceIndex explicit nodeClass
    references) nodeId).nodeId.namespaceIndex = namespaceIndex from hns)]
  cases path with
  | top browseName =>
    obtain rfl := Option.some.inj hrefs
    rfl
  | under parent kind browseName =>
    obtain rfl := Option.some.inj hrefs
    obtain ⟨node, hnode⟩ := Option.isSome_iff_exists.mp (hpar parent kind browseName rfl)
    cases kind with
    | aggregates =>
      simp [newNode, optionsOf, ParentKind.reference, names, hnode, hplc.existing parent node hnode,
        NodePath.browseName, chainNames]
    | hasEncoding => rfl
    | hasEncodingSubtype => rfl
  | child parent kind browseName =>
    obtain ⟨parentId, hid, rfl⟩ := Option.map_eq_some_iff.mp hrefs
    obtain ⟨-, node, hnode, hnames⟩ := hplc.created parent parentId hid
    cases kind with
    | aggregates =>
      simp [newNode, optionsOf, ParentKind.reference, names, hnode, NodePath.browseName, ← hnames,
        chainNames]
    | hasEncoding => rfl
    | hasEncodingSubtype => rfl

/-- **A new node** takes its place. -/
lemma Placed.newNode (hplc : Placed namespaceIndex start ids s.space)
    {node : BaseNode U} (hns : node.nodeId.namespaceIndex = namespaceIndex)
    (hnew : findNode s.space node.nodeId = none)
    (hnames : chainNames namespaceIndex node = path.names namespaceIndex start) :
    Placed namespaceIndex start (update ids path (some node.nodeId)) (node :: s.space) where
  created := by
    intro path' nodeId hid
    by_cases hpath : path' = path
    · subst hpath
      rw [update_self] at hid
      obtain rfl := Option.some.inj hid
      exact ⟨hns, node, findNode_cons_self node s.space, hnames⟩
    · rw [update_of_ne hpath] at hid
      obtain ⟨hns', node', hnode', hnames'⟩ := hplc.created path' nodeId hid
      exact ⟨hns', node', findNode_cons_of_some hnew hnode', hnames'⟩
  existing := fun nodeId node' hnode' =>
    findNode_cons_of_some hnew (hplc.existing nodeId node' hnode')

end

/-! ### A node that is created -/

/-- **A node is created** when an identifier of the namespace is constructed that no node has. -/
lemma createNode_eq_ok_iff {s s' : State U} {opts : ConstructNodeIdOptions U} :
    createNode s opts = (s', .ok nodeId) ↔
      ∃ manager, s.manager.constructNodeId s.space opts = .ok (nodeId, manager) ∧
        nodeId.namespaceIndex = manager.namespaceIndex ∧ findNode s.space nodeId = none ∧
        s' = ⟨manager, NodeIdManager.newNode s.space opts nodeId :: s.space⟩ := by
  unfold createNode
  cases hcall : s.manager.constructNodeId s.space opts with
  | error e => simp
  | ok result =>
    obtain ⟨nodeId', manager⟩ := result
    simp only [_register, NodeIdManager.newNode, ne_eq, ite_not, Option.isSome_iff_ne_none,
      Except.ok.injEq, Prod.mk.injEq]
    by_cases hns : nodeId'.namespaceIndex = manager.namespaceIndex
    · rw [if_pos hns]
      by_cases hfound : findNode s.space nodeId' = none
      · rw [if_pos hfound]
        simp only [Prod.mk.injEq, Except.ok.injEq]
        constructor
        · rintro ⟨rfl, rfl⟩
          exact ⟨manager, ⟨rfl, rfl⟩, hns, hfound, rfl⟩
        · rintro ⟨_, ⟨rfl, rfl⟩, -, -, rfl⟩
          exact ⟨rfl, rfl⟩
      · rw [if_neg hfound]
        refine iff_of_false (fun h => nomatch (Prod.mk.inj h).2) ?_
        rintro ⟨_, ⟨rfl, rfl⟩, -, hnone, -⟩
        exact hfound hnone
    · rw [if_neg hns]
      refine iff_of_false (fun h => nomatch (Prod.mk.inj h).2) ?_
      rintro ⟨_, ⟨rfl, rfl⟩, hns', -, -⟩
      exact hns hns'

section

variable {namespaceIndex : UInt16} {explicit : Option UInt32} {nodeClass : Option NodeClass}
  {s : State U} {path : NodePath U} {references : List (NodeReference U)}
  {parentInfo : Option (NodeId U × String)}

/-- **A name that is new**: an identifier is built, and its number is kept for the name. -/
lemma constructNodeId_missing
    (hpar : findParentNodeId (path.optionsOf namespaceIndex explicit nodeClass references) =
      .ok parentInfo)
    (hmiss : s.manager._cacheSymbolicName.get (fullName s.space parentInfo path.browseName) =
      .missing) :
    s.manager.constructNodeId s.space
        (path.optionsOf namespaceIndex explicit nodeClass references) =
      (s.manager._constructNodeId s.space
        (path.optionsOf namespaceIndex explicit nodeClass references)).map fun built =>
          (built.1, built.2.register (fullName s.space parentInfo path.browseName) nodeClass
            built.1) := by
  cases explicit with
  | none =>
    rw [constructNodeId_eq rfl hpar]
    have hreuse : reuse s (path.optionsOf namespaceIndex none nodeClass references) parentInfo =
        .ok false := by
      have hname : (path.optionsOf namespaceIndex none nodeClass references).browseName =
        path.browseName := rfl
      unfold reuse
      rw [hname, hmiss]
      simp [isSet]
    rw [hreuse]
    rfl
  | some value =>
    unfold constructNodeId
    simp only [bind, Except.bind, hpar]
    unfold _constructNodeId
    simp only [optionsOf, Option.map_some, Option.isNone_some, Bool.false_and, Bool.false_eq_true,
      if_false, if_true]
    split_ifs <;> rfl

lemma built_cases
    (hpar : findParentNodeId (path.optionsOf s.manager.namespaceIndex explicit nodeClass
      references) = .ok parentInfo) {nodeId : NodeId U} {manager : NodeIdManager}
    (hbuilt : s.manager._constructNodeId s.space
      (path.optionsOf s.manager.namespaceIndex explicit nodeClass references) =
        .ok (nodeId, manager)) :
    manager._cacheSymbolicName = s.manager._cacheSymbolicName ∧
      manager.namespaceIndex = s.manager.namespaceIndex ∧
      ((∃ value, nodeId = ⟨s.manager.namespaceIndex, .numeric value⟩) ∨
        ∃ parentId value, parentInfo.map fst = some parentId ∧ parentId.value = .string value ∧
          nodeId = childNodeId parentId value path.browseName) := by
  cases explicit with
  | some value =>
    unfold _constructNodeId at hbuilt
    simp only [optionsOf, Option.map_some, if_true] at hbuilt
    obtain ⟨rfl, rfl⟩ := Prod.mk.inj (Except.ok.inj hbuilt)
    exact ⟨rfl, rfl, Or.inl ⟨value, rfl⟩⟩
  | none =>
    obtain ⟨parentId, suffix, value, rfl, hvalue, hcall, -⟩ | ⟨hcall, -⟩ :=
      _constructNodeId_cases (s := s) rfl hpar
    · rw [hcall] at hbuilt
      obtain ⟨rfl, rfl⟩ := Prod.mk.inj (Except.ok.inj hbuilt)
      exact ⟨rfl, rfl, Or.inr ⟨parentId, value, rfl, hvalue, rfl⟩⟩
    · rw [hcall] at hbuilt
      obtain ⟨n, -, -, -, hnew⟩ | ⟨⟨e, herror⟩, -⟩ := buildNewNodeId_spec s
      · rw [hnew] at hbuilt
        obtain ⟨rfl, rfl⟩ := Prod.mk.inj (Except.ok.inj hbuilt)
        exact ⟨rfl, rfl, Or.inl ⟨_, rfl⟩⟩
      · exact nomatch herror.symm.trans hbuilt

end

/-! ### The first run -/

section

variable (namespaceIndex : UInt16) (start : AddressSpace U)

/-- **An identifier that was given to a node**: a number that is kept for the name of the node, or
the string of the parent with the name, for which no number is kept. -/
def Assigned (cache : SymbolCache) (ids : NodePath U → Option (NodeId U)) (path : NodePath U)
    (nodeId : NodeId U) : Prop :=
  (∃ value nodeClass, nodeId = ⟨namespaceIndex, .numeric value⟩ ∧
    cache.own.lookup (path.symbol namespaceIndex start) = some (value, nodeClass)) ∨
  ∃ parentId value, path.parentId ids = some parentId ∧ parentId.value = .string value ∧
    nodeId = childNodeId parentId value path.browseName ∧
    cache.own.lookup (path.symbol namespaceIndex start) = none

/-- **What holds after some nodes were created** with a new manager. -/
structure FirstRun (done : List (NodePath U)) (s : State U)
    (ids : NodePath U → Option (NodeId U)) : Prop where
  sameNamespace : s.manager.namespaceIndex = namespaceIndex
  prototype : s.manager._cacheSymbolicName.prototype = none
  keys : (s.manager._cacheSymbolicName.own.map fst).Nodup
  symbols : ∀ name ∈ s.manager._cacheSymbolicName.own.map fst,
    ∃ path ∈ done, path.symbol namespaceIndex start = name
  notCreated : ∀ path, path ∉ done → ids path = none
  created : ∀ path ∈ done, ∃ nodeId, ids path = some nodeId ∧
    Assigned namespaceIndex start s.manager._cacheSymbolicName ids path nodeId
  placed : Placed namespaceIndex start ids s.space
  fresh : ∀ path nodeId, ids path = some nodeId → findNode start nodeId = none
  distinct : ∀ path path' nodeId nodeId', ids path = some nodeId → ids path' = some nodeId' →
    SameKey nodeId nodeId' → path = path'

end

section

variable {namespaceIndex : UInt16} {start : AddressSpace U} {done : List (NodePath U)}
  {s : State U} {ids : NodePath U → Option (NodeId U)} {path : NodePath U}

lemma parent_isSome (h : ParentReady start done path) :
    ∀ parent kind browseName, path = under parent kind browseName →
      (findNode start parent).isSome = true := by
  rintro parent kind browseName rfl
  exact h

variable {path path' : NodePath U}

lemma parentId_update {parentId nodeId : NodeId U}
    (hpath : ids path = none) (h : path'.parentId ids = some parentId) :
    path'.parentId (update ids path (some nodeId)) = some parentId := by
  cases path' with
  | top browseName => exact h
  | under parent kind browseName => exact h
  | child parent kind browseName =>
    have hne : parent ≠ path := by
      rintro rfl
      exact absurd (hpath.symm.trans h) nofun
    exact (update_of_ne hne _ _).trans h

lemma Assigned.set {cache : SymbolCache} {nodeId newId : NodeId U}
    (h : Assigned namespaceIndex start cache ids path' nodeId) (hpath : ids path = none)
    (hne : path'.symbol namespaceIndex start ≠ path.symbol namespaceIndex start)
    {own : List (String × SymbolEntry)}
    (hown : own = cache.own ∨
      ∃ entry, own = SymbolCache.setOwn (path.symbol namespaceIndex start) entry cache.own)
    {prototype : Option SymbolEntry} :
    Assigned namespaceIndex start ⟨own, prototype⟩ (update ids path (some newId)) path'
      nodeId := by
  have hlook : own.lookup (path'.symbol namespaceIndex start) =
      cache.own.lookup (path'.symbol namespaceIndex start) := by
    obtain rfl | ⟨entry, rfl⟩ := hown
    · rfl
    · rw [SymbolCache.lookup_setOwn, if_neg hne]
  obtain ⟨value, nodeClass, hid, hentry⟩ | ⟨parentId, value, hpar, hvalue, hid, hnone⟩ := h
  · exact Or.inl ⟨value, nodeClass, hid, hlook.trans hentry⟩
  · exact Or.inr ⟨parentId, value, parentId_update hpath hpar, hvalue, hid, hlook.trans hnone⟩

variable {references : List (NodeReference U)} {nodeClass : Option NodeClass}
    {explicit : Option UInt32}

/-- **What becomes of the names**: the number of a new identifier is kept, and a string is not. -/
lemma assigned_of_constructed (hids : ids path = none)
    (hproto : s.manager._cacheSymbolicName.prototype = none)
    (hnone : s.manager._cacheSymbolicName.own.lookup
      (path.symbol s.manager.namespaceIndex start) = none)
    (hplain : SymbolCache.Plain (path.symbol s.manager.namespaceIndex start))
    {parent : Option (NodeId U × String)}
    (hpar : findParentNodeId (path.optionsOf s.manager.namespaceIndex explicit nodeClass
      references) = .ok parent)
    (hparentId : parent.map fst = path.parentId ids)
    (hname : fullName s.space parent path.browseName =
      path.symbol s.manager.namespaceIndex start)
    {nodeId : NodeId U} {manager : NodeIdManager}
    (hcall : s.manager.constructNodeId s.space (path.optionsOf s.manager.namespaceIndex explicit
      nodeClass references) = .ok (nodeId, manager)) :
    manager.namespaceIndex = s.manager.namespaceIndex ∧ ∃ own,
      manager._cacheSymbolicName = ⟨own, none⟩ ∧
      (own = s.manager._cacheSymbolicName.own ∨ ∃ entry, own = SymbolCache.setOwn
        (path.symbol s.manager.namespaceIndex start) entry s.manager._cacheSymbolicName.own) ∧
      Assigned s.manager.namespaceIndex start ⟨own, none⟩ (update ids path (some nodeId))
        path nodeId := by
  have hmiss := SymbolCache.get_eq_missing hplain hproto hnone
  rw [constructNodeId_missing hpar (by rw [hname]; exact hmiss), hname] at hcall
  cases hbuilt : s.manager._constructNodeId s.space
    (path.optionsOf s.manager.namespaceIndex explicit nodeClass references) with
  | error e =>
    rw [hbuilt] at hcall
    exact nomatch hcall
  | ok built =>
    rw [hbuilt] at hcall
    obtain ⟨rfl, rfl⟩ := Prod.mk.inj (Except.ok.inj hcall)
    obtain ⟨hcache, hns, ⟨value, hvalue⟩ | ⟨parentId, value, hid, hvalue, hstring⟩⟩ :=
      built_cases hpar hbuilt
    · have hregister : built.2.register (path.symbol s.manager.namespaceIndex start) nodeClass
          built.1 =
          { built.2 with
            _cacheSymbolicName := s.manager._cacheSymbolicName.set
              (path.symbol s.manager.namespaceIndex start) (value, nodeClass)
            _cacheSymbolicNameRev := value :: built.2._cacheSymbolicNameRev } := by
        unfold register
        rw [hvalue]
        rw [hcache, hmiss]
        rfl
      rw [hregister]
      refine ⟨hns, SymbolCache.setOwn (path.symbol s.manager.namespaceIndex start) (value, nodeClass)
        s.manager._cacheSymbolicName.own, ?_, Or.inr ⟨_, rfl⟩, Or.inl ⟨value, nodeClass, hvalue, ?_⟩⟩
      · dsimp only
        rw [SymbolCache.set, if_neg hplain.1, hproto]
      · rw [SymbolCache.lookup_setOwn, if_pos rfl]
    · have hregister : built.2.register (path.symbol s.manager.namespaceIndex start) nodeClass
          built.1 = built.2 := by
        rw [hstring]
        rfl
      rw [hregister]
      refine ⟨hns, s.manager._cacheSymbolicName.own, ?_, Or.inl rfl,
        Or.inr ⟨parentId, value, ?_, hvalue, hstring, hnone⟩⟩
      · rw [hcache, ← hproto]
      · exact parentId_update hids (hparentId.symm.trans hid)

/-- **The next node** of the first run. -/
lemma FirstRun.createNode (h : FirstRun namespaceIndex start done s ids) (hpath : path ∉ done)
    (hnew : ∀ path' ∈ done, path'.symbol namespaceIndex start ≠ path.symbol namespaceIndex start)
    (hplain : SymbolCache.Plain (path.symbol namespaceIndex start))
    (hready : ParentReady start done path) (hrefs : path.references ids = some references)
    {s' : State U} {nodeId : NodeId U} (hcreate : NodeIdManager.createNode s
      (path.optionsOf s.manager.namespaceIndex explicit nodeClass references) = (s', .ok nodeId)) :
    FirstRun namespaceIndex start (path :: done) s'
      (update ids path (some nodeId)) := by
  obtain rfl := h.sameNamespace
  have hids := h.notCreated path hpath
  obtain ⟨manager, hcall, hns, hfree, rfl⟩ := createNode_eq_ok_iff.mp hcreate
  obtain ⟨parent, hpar, hparentId, hname⟩ :=
    fullName_eq h.placed hrefs (parent_isSome hready) explicit nodeClass
  have hnone : s.manager._cacheSymbolicName.own.lookup
      (path.symbol s.manager.namespaceIndex start) = none := by
    rw [List.lookup_eq_none_iff]
    rintro ⟨name, entry⟩ hmem
    obtain ⟨path', hpath', hsymbol⟩ := h.symbols name (List.mem_map.mpr ⟨_, hmem, rfl⟩)
    have hne : path.symbol s.manager.namespaceIndex start ≠ name := fun heq =>
      hnew path' hpath' (hsymbol.trans heq.symm)
    simpa using hne
  obtain ⟨hnamespace, own, hcache, hown, hassigned⟩ :=
    assigned_of_constructed hids h.prototype hnone hplain hpar hparentId hname hcall
  have hns' : nodeId.namespaceIndex = s.manager.namespaceIndex := hns.trans hnamespace
  have hchain := chainNames_newNode h.placed hrefs (parent_isSome hready) explicit nodeClass hns'
  refine ⟨hnamespace, ?_, ?_, ?_, ?_, ?_, ?_, ?_, ?_⟩
  · rw [hcache]
  · rw [hcache]
    obtain rfl | ⟨entry, rfl⟩ := hown
    · exact h.keys
    · exact SymbolCache.nodup_setOwn _ _ h.keys
  · intro name hmem
    rw [hcache] at hmem
    have hcases : name = path.symbol s.manager.namespaceIndex start ∨
        name ∈ s.manager._cacheSymbolicName.own.map fst := by
      obtain rfl | ⟨entry, rfl⟩ := hown
      · exact Or.inr hmem
      · rw [SymbolCache.keys_setOwn] at hmem
        split_ifs at hmem
        · exact Or.inr hmem
        · exact (List.mem_append.mp hmem).symm.imp_left List.mem_singleton.mp
    obtain rfl | hold := hcases
    · exact ⟨path, mem_cons_self, rfl⟩
    · obtain ⟨path', hpath', hsymbol⟩ := h.symbols name hold
      exact ⟨path', mem_cons_of_mem _ hpath', hsymbol⟩
  · intro path' hpath'
    rw [mem_cons, not_or] at hpath'
    rw [update_of_ne hpath'.1]
    exact h.notCreated path' hpath'.2
  · intro path' hpath'
    rw [hcache]
    by_cases heq : path' = path
    · subst heq
      exact ⟨nodeId, update_self .., hassigned⟩
    · have hold : path' ∈ done := (List.mem_cons.mp hpath').resolve_left heq
      obtain ⟨nodeId', hid', hassigned'⟩ := h.created path' hold
      exact ⟨nodeId', (update_of_ne heq _ _).trans hid',
        hassigned'.set hids (hnew path' hold) hown⟩
  · exact h.placed.newNode hns' hfree hchain
  · intro path' nodeId' hid
    by_cases heq : path' = path
    · subst heq
      rw [update_self] at hid
      obtain rfl := Option.some.inj hid
      cases hstart : findNode start nodeId with
      | none => rfl
      | some node => exact absurd (hfree.symm.trans (h.placed.existing _ _ hstart)) nofun
    · rw [update_of_ne heq] at hid
      exact h.fresh path' nodeId' hid
  · -- a node that was created before is found, and the identifier is not
    have hdiffer : ∀ path' nodeId', ids path' = some nodeId' → ¬ SameKey nodeId' nodeId := by
      intro path' nodeId' hid hkey
      obtain ⟨-, node, hnode, -⟩ := h.placed.created path' nodeId' hid
      have heq : findNode s.space nodeId' = findNode s.space nodeId := by
        unfold findNode
        rw [hkey.1, hkey.2]
      exact absurd (hfree.symm.trans (heq.symm.trans hnode)) nofun
    intro path₁ path₂ nodeId₁ nodeId₂ hid₁ hid₂ hkey
    by_cases h₁ : path₁ = path <;> by_cases h₂ : path₂ = path
    · rw [h₁, h₂]
    · rw [h₁, update_self] at hid₁
      rw [update_of_ne h₂] at hid₂
      obtain rfl := Option.some.inj hid₁
      exact absurd ⟨hkey.1.symm, hkey.2.symm⟩ (hdiffer path₂ nodeId₂ hid₂)
    · rw [h₂, update_self] at hid₂
      rw [update_of_ne h₁] at hid₁
      obtain rfl := Option.some.inj hid₂
      exact absurd hkey (hdiffer path₁ nodeId₁ hid₁)
    · rw [update_of_ne h₁] at hid₁
      rw [update_of_ne h₂] at hid₂
      exact h.distinct path₁ path₂ nodeId₁ nodeId₂ hid₁ hid₂ hkey

/-- **The first run**: what holds after some nodes holds after all. -/
lemma FirstRun.createNodes {explicit : NodePath U → Option UInt32}
    {nodeClass : NodePath U → Option NodeClass} {order : List (NodePath U)}
    (h : FirstRun namespaceIndex start done s ids)
    (hexisting : ∀ parent kind browseName, under parent kind browseName ∈ order →
      (findNode start parent).isSome = true)
    (hnames : (order.map fun path => path.symbol namespaceIndex start).Nodup)
    (hnew : ∀ path ∈ order, ∀ path' ∈ done,
      path'.symbol namespaceIndex start ≠ path.symbol namespaceIndex start)
    (hplain : ∀ path ∈ order, SymbolCache.Plain (path.symbol namespaceIndex start))
    {s' : State U} {ids' : NodePath U → Option (NodeId U)}
    (hrun : NodePath.createNodes explicit nodeClass s ids order = some (s', ids')) :
    FirstRun namespaceIndex start (order.reverse ++ done) s' ids' := by
  induction order generalizing s ids done with
  | nil =>
    obtain ⟨rfl, rfl⟩ := Prod.mk.inj (Option.some.inj hrun)
    exact h
  | cons path order ih =>
    rw [map_cons, nodup_cons] at hnames
    have hpath : path ∉ done := fun hmem => hnew path mem_cons_self path hmem rfl
    unfold NodePath.createNodes at hrun
    cases hrefs : path.references ids with
    | none =>
      rw [hrefs] at hrun
      exact nomatch hrun
    | some refs =>
      rw [hrefs] at hrun
      dsimp only at hrun
      have hready : ParentReady start done path := by
        cases path with
        | top browseName => trivial
        | under parent kind browseName => exact hexisting parent kind browseName mem_cons_self
        | child parent kind browseName =>
          obtain ⟨nodeId, hid, -⟩ := Option.map_eq_some_iff.mp hrefs
          by_contra hpar
          exact absurd ((h.notCreated parent hpar).symm.trans hid) nofun
      match hcreate : NodeIdManager.createNode s (path.optionsOf s.manager.namespaceIndex
        (explicit path) (nodeClass path) refs) with
      | (_, .error e) =>
        rw [hcreate] at hrun
        exact nomatch hrun
      | (s₁, .ok nodeId) =>
        rw [hcreate] at hrun
        have hnext := h.createNode hpath (hnew path mem_cons_self)
          (hplain path mem_cons_self) hready hrefs hcreate
        rw [List.reverse_cons, List.append_assoc]
        refine ih hnext (fun parent kind browseName hmem =>
          hexisting parent kind browseName (mem_cons_of_mem _ hmem)) hnames.2 ?_
          (fun path' hmem => hplain path' (mem_cons_of_mem _ hmem)) hrun
        intro path' hmem path'' hmem''
        obtain rfl | hdone := List.mem_cons.mp hmem''
        · exact fun heq => hnames.1 (List.mem_map.mpr ⟨path', hmem, heq.symm⟩)
        · exact hnew path' (mem_cons_of_mem _ hmem) path'' hdone

end

/-! ### The second run -/

section

variable {namespaceIndex : UInt16} {start : AddressSpace U} {all done : List (NodePath U)}
  {s₁ s : State U} {ids₁ ids : NodePath U → Option (NodeId U)} {loaded : NodeIdManager}

/-- A manager that has the symbols of the first run. -/
structure Loaded (namespaceIndex : UInt16) (cache : SymbolCache) (loaded : NodeIdManager) : Prop where
  sameNamespace : loaded.namespaceIndex = namespaceIndex
  prototype : loaded._cacheSymbolicName.prototype = none
  lookup : ∀ name, loaded._cacheSymbolicName.own.lookup name = cache.own.lookup name

/-- **What holds after some nodes were created once more**: they have their identifiers, and the
manager is as it was. -/
structure SecondRun (namespaceIndex : UInt16) (start : AddressSpace U) (loaded : NodeIdManager)
    (ids₁ : NodePath U → Option (NodeId U)) (done : List (NodePath U)) (s : State U)
    (ids : NodePath U → Option (NodeId U)) : Prop where
  manager : s.manager = loaded
  same : ∀ path ∈ done, ids path = ids₁ path
  notCreated : ∀ path, path ∉ done → ids path = none
  placed : Placed namespaceIndex start ids s.space
  space : ∀ node ∈ s.space, node ∈ start ∨ ∃ path ∈ done, ids₁ path = some node.nodeId

/-- **The identifier of the first run** is constructed again. -/
lemma constructNodeId_again (hload : Loaded namespaceIndex s₁.manager._cacheSymbolicName loaded)
    {path : NodePath U} {nodeId : NodeId U}
    (hassigned : Assigned namespaceIndex start s₁.manager._cacheSymbolicName ids₁ path nodeId)
    (hman : s.manager = loaded) (hfree : findNode s.space nodeId = none)
    (hplain : SymbolCache.Plain (path.symbol namespaceIndex start))
    (hparentIds : path.parentId ids = path.parentId ids₁) {refs : List (NodeReference U)}
    {nodeClass : Option NodeClass} {parent : Option (NodeId U × String)}
    (hpar : findParentNodeId (path.optionsOf namespaceIndex none nodeClass refs) =
      .ok parent)
    (hparentId : parent.map fst = path.parentId ids)
    (hname : fullName s.space parent path.browseName = path.symbol namespaceIndex start) :
    s.manager.constructNodeId s.space (path.optionsOf namespaceIndex none nodeClass refs) =
      .ok (nodeId, s.manager) := by
  have hns : s.manager.namespaceIndex = namespaceIndex := hman ▸ hload.sameNamespace
  have hlook := hload.lookup (path.symbol namespaceIndex start)
  rw [← hman] at hlook
  obtain ⟨value, nodeClass', rfl, hentry⟩ | ⟨parentId, value, hid, hvalue, rfl, hnone⟩ := hassigned
  · have hget := (s.manager._cacheSymbolicName.get_eq_entry_iff hplain _).mpr (hlook.trans hentry)
    have hreuse : reuse s (path.optionsOf namespaceIndex none nodeClass refs) parent =
        .ok true := by
      have hbrowseName : (path.optionsOf namespaceIndex none nodeClass refs).browseName =
        path.browseName := rfl
      unfold reuse
      rw [hbrowseName, hname, hget]
      have hnone : findNode s.space (makeNodeId (some value) s.manager.namespaceIndex) = none := by
        rw [hns]
        exact hfree
      simp [isSet, CachedSymbol.value, _isCacheHitReusable, hnone, optionsOf]
    rw [constructNodeId_eq rfl hpar, hreuse]
    have hbrowseName : (path.optionsOf namespaceIndex none nodeClass refs).browseName =
      path.browseName := rfl
    rw [hbrowseName, hname, hget, hns]
    rfl
  · have hmiss := SymbolCache.get_eq_missing hplain (hman ▸ hload.prototype)
      (hlook.trans hnone)
    obtain ⟨⟨parentId', suffix⟩, rfl, hfst⟩ :=
      Option.map_eq_some_iff.mp (hparentId.trans (hparentIds.trans hid))
    obtain rfl : parentId' = parentId := hfst
    have hbuilt : s.manager._constructNodeId s.space
        (path.optionsOf namespaceIndex none nodeClass refs) =
          .ok (childNodeId parentId' value path.browseName, s.manager) := by
      unfold _constructNodeId
      rw [hpar]
      simp only [optionsOf, Option.map_none, hvalue]
    rw [constructNodeId_missing hpar (by rw [hname]; exact hmiss), hbuilt]
    rfl

section

variable (hfirst : FirstRun namespaceIndex start all s₁ ids₁)
  (hload : Loaded namespaceIndex s₁.manager._cacheSymbolicName loaded)
  (h : SecondRun namespaceIndex start loaded ids₁ done s ids)
include hfirst hload h

/-- **The next node** of the second run. -/
lemma SecondRun.createNode (hdone : ∀ path ∈ done, path ∈ all)
    {path : NodePath U} (hall : path ∈ all) (hpath : path ∉ done)
    (hplain : SymbolCache.Plain (path.symbol namespaceIndex start))
    (hready : ParentReady start done path) (nodeClass : Option NodeClass) :
    ∃ refs s' nodeId, path.references ids = some refs ∧
      NodeIdManager.createNode s
        (path.optionsOf s.manager.namespaceIndex none nodeClass refs) = (s', .ok nodeId) ∧
      SecondRun namespaceIndex start loaded ids₁ (path :: done) s'
        (update ids path (some nodeId)) := by
  obtain ⟨nodeId, hid, hassigned⟩ := hfirst.created path hall
  obtain rfl : s.manager.namespaceIndex = namespaceIndex := h.manager ▸ hload.sameNamespace
  -- the parent has its identifier again
  obtain ⟨refs, hrefs, hparentIds⟩ : ∃ refs,
      path.references ids = some refs ∧ path.parentId ids = path.parentId ids₁ := by
    cases path with
    | top browseName => exact ⟨[], rfl, rfl⟩
    | under parent kind browseName => exact ⟨_, rfl, rfl⟩
    | child parent kind browseName =>
      have hsame := h.same parent hready
      obtain ⟨parentId, hpar, -⟩ := hfirst.created parent (hdone parent hready)
      refine ⟨[⟨kind.reference, false, parentId⟩], ?_, hsame⟩
      rw [NodePath.references, hsame, hpar]
      rfl
  -- no node of the new address space has the identifier
  have hfree : findNode s.space nodeId = none := by
    rw [findNode_eq_none_iff]
    intro node hnode hkey
    obtain hstart | ⟨path', hpath', hid'⟩ := h.space node hnode
    · exact findNode_eq_none_iff.mp (hfirst.fresh path nodeId hid) node hstart hkey
    · obtain rfl := hfirst.distinct path' path node.nodeId nodeId hid' hid hkey
      exact hpath hpath'
  obtain ⟨parentInfo, hpar, hparentId, hname⟩ :=
    fullName_eq h.placed hrefs (parent_isSome hready) none nodeClass
  have hcall := constructNodeId_again hload hassigned h.manager hfree hplain hparentIds hpar
    hparentId hname
  have hns := (hfirst.placed.created path nodeId hid).1
  refine ⟨refs, _, nodeId, hrefs,
    createNode_eq_ok_iff.mpr ⟨s.manager, hcall, hns, hfree, rfl⟩, h.manager, ?_, ?_, ?_, ?_⟩
  · intro path' hmem
    by_cases heq : path' = path
    · rw [heq, update_self, hid]
    · rw [update_of_ne heq]
      exact h.same path' ((List.mem_cons.mp hmem).resolve_left heq)
  · intro path' hmem
    rw [mem_cons, not_or] at hmem
    rw [update_of_ne hmem.1]
    exact h.notCreated path' hmem.2
  · exact h.placed.newNode hns hfree
      (chainNames_newNode h.placed hrefs (parent_isSome hready) none nodeClass hns)
  · intro node hnode
    obtain rfl | hold := List.mem_cons.mp hnode
    · exact Or.inr ⟨path, mem_cons_self, hid⟩
    · refine (h.space node hold).imp_right ?_
      rintro ⟨path', hmem, hid'⟩
      exact ⟨path', mem_cons_of_mem _ hmem, hid'⟩

/-- **The second run** creates all nodes, with their identifiers. -/
lemma SecondRun.createNodes {nodeClass : NodePath U → Option NodeClass} {order : List (NodePath U)}
    (hall : ∀ path, path ∈ order ∨ path ∈ done ↔ path ∈ all) (hnodup : order.Nodup)
    (hnew : ∀ path ∈ order, path ∉ done)
    (hplain : ∀ path ∈ order, SymbolCache.Plain (path.symbol namespaceIndex start))
    (hparents : ParentsFirst start done order) :
    ∃ s', NodePath.createNodes (fun _ => none) nodeClass s ids order = some (s', ids₁) := by
  induction order generalizing s ids done with
  | nil =>
    refine ⟨s, ?_⟩
    have hids : ids = ids₁ := by
      funext path
      by_cases hpath : path ∈ done
      · exact h.same path hpath
      · have hnot : path ∉ all := fun hmem =>
          hpath (((hall path).mpr hmem).resolve_left not_mem_nil)
        rw [h.notCreated path hpath, hfirst.notCreated path hnot]
    rw [NodePath.createNodes, hids]
  | cons path order ih =>
    obtain ⟨hready, hrest⟩ := hparents
    rw [nodup_cons] at hnodup
    obtain ⟨refs, s', nodeId, hrefs, hcreate, hnext⟩ :=
      h.createNode hfirst hload (fun path' hmem => (hall path').mp (Or.inr hmem))
        ((hall path).mp (Or.inl mem_cons_self)) (hnew path mem_cons_self)
        (hplain path mem_cons_self) hready (nodeClass path)
    rw [NodePath.createNodes, hrefs]
    dsimp only
    rw [hcreate]
    refine ih hnext (fun path' => ?_) hnodup.2 ?_
      (fun path' hmem => hplain path' (mem_cons_of_mem _ hmem)) hrest
    · rw [← hall path', mem_cons, mem_cons]
      tauto
    · intro path' hmem hmem'
      obtain rfl | hdone := List.mem_cons.mp hmem'
      · exact hnodup.1 hmem
      · exact hnew path' (mem_cons_of_mem _ hmem) hdone

end

end

/-! ### The result -/

lemma isSome_of_parentsFirst {start : AddressSpace U} {done order : List (NodePath U)}
    (h : ParentsFirst start done order) {parent : NodeId U} {kind : ParentKind}
    {browseName : QualifiedName} (hmem : under parent kind browseName ∈ order) :
    (findNode start parent).isSome = true := by
  induction order generalizing done with
  | nil => exact absurd hmem not_mem_nil
  | cons path order ih =>
    obtain rfl | hrest := List.mem_cons.mp hmem
    · exact h.1
    · exact ih h.2 hrest

lemma firstRun_nil (namespaceIndex : UInt16) (start : AddressSpace U) :
    FirstRun namespaceIndex start [] ⟨{ namespaceIndex }, start⟩ fun _ => none where
  sameNamespace := rfl
  prototype := rfl
  keys := List.nodup_nil
  symbols := fun _ h => absurd h not_mem_nil
  notCreated := fun _ _ => rfl
  created := fun _ h => absurd h not_mem_nil
  placed := ⟨fun _ _ h => (nomatch h), fun _ _ h => h⟩
  fresh := fun _ _ h => nomatch h
  distinct := fun _ _ _ _ h => nomatch h

/-- **Symbolic names are stable**: nodes are created with a new manager, in a namespace where other
nodes may be, and their symbolic names are different and no members of the prototype of objects. The
symbols are loaded into a new manager, and the nodes are created once more without identifiers, in
any order in which a node comes after its parent. Then every node gets its identifier again. -/
theorem recreated_same (namespaceIndex : UInt16) (start : AddressSpace U)
    (explicit : NodePath U → Option UInt32) (nodeClass nodeClass' : NodePath U → Option NodeClass)
    {order order' : List (NodePath U)} {s₁ : State U} {ids₁ : NodePath U → Option (NodeId U)}
    (hrun : createNodes explicit nodeClass ⟨{ namespaceIndex }, start⟩ (fun _ => none) order =
      some (s₁, ids₁))
    (hnames : (order.map fun path => path.symbol namespaceIndex start).Nodup)
    (hplain : ∀ path ∈ order, SymbolCache.Plain (path.symbol namespaceIndex start))
    (hperm : order'.Perm order) (hparents : ParentsFirst start [] order') :
    ∃ s₂, createNodes (fun _ => none) nodeClass'
      ⟨setSymbols { namespaceIndex } s₁.manager.getSymbols, start⟩ (fun _ => none) order' =
        some (s₂, ids₁) := by
  have hexisting : ∀ parent kind browseName, under parent kind browseName ∈ order →
      (findNode start parent).isSome = true := fun parent kind browseName hmem =>
    isSome_of_parentsFirst hparents (hperm.mem_iff.mpr hmem)
  have hfirst := (firstRun_nil namespaceIndex start).createNodes hexisting hnames
    (fun _ _ _ h => absurd h not_mem_nil) hplain hrun
  rw [List.append_nil] at hfirst
  have hproto : ∀ e ∈ s₁.manager._cacheSymbolicName.own, e.1 ≠ "__proto__" := by
    intro e hmem
    obtain ⟨path, hpath, hsymbol⟩ := hfirst.symbols e.1 (List.mem_map.mpr ⟨e, hmem, rfl⟩)
    rw [← hsymbol]
    exact (hplain path (List.mem_reverse.mp hpath)).1
  have hload : Loaded namespaceIndex s₁.manager._cacheSymbolicName
      (setSymbols { namespaceIndex } s₁.manager.getSymbols) := by
    refine ⟨namespaceIndex_setSymbols _ _, prototype_setSymbols fun e hmem => ?_,
      lookup_loaded hfirst.keys hproto⟩
    have hsymbols : s₁.manager.getSymbols = s₁.manager._cacheSymbolicName.entries := List.map_id _
    rw [hsymbols, SymbolCache.mem_entries_iff] at hmem
    exact hproto e hmem
  have hstart : SecondRun namespaceIndex start
      (setSymbols { namespaceIndex } s₁.manager.getSymbols) ids₁ []
      ⟨setSymbols { namespaceIndex } s₁.manager.getSymbols, start⟩ fun _ => none :=
    ⟨rfl, fun _ h => absurd h not_mem_nil, fun _ _ => rfl, (firstRun_nil _ start).placed,
      fun _ h => Or.inl h⟩
  have hnodup : order'.Nodup := hperm.nodup_iff.mpr (List.Nodup.of_map _ hnames)
  refine hstart.createNodes hfirst hload (fun path => ?_) hnodup
    (fun _ _ => not_mem_nil) (fun path hmem => hplain path (hperm.mem_iff.mp hmem)) hparents
  rw [List.mem_reverse, hperm.mem_iff]
  simp

/-- The nodes `A` and `C` and a node `B` below `A`, of which `C` has an explicit number, get their
identifiers again in another order. -/
theorem recreated_same_three :
    let a : NodePath .ascii := .top ⟨1, some "A"⟩
    let b : NodePath .ascii := .child a .aggregates ⟨1, some "B"⟩
    let c : NodePath .ascii := .top ⟨1, some "C"⟩
    ∃ s₁ ids₁ s₂,
      createNodes (fun path => if path = c then some 5000 else none) (fun _ => some .Object)
        ⟨{ namespaceIndex := 1 }, []⟩ (fun _ => none) [a, b, c] = some (s₁, ids₁) ∧
      createNodes (fun _ => none) (fun _ => some .Object)
        ⟨setSymbols { namespaceIndex := 1 } s₁.manager.getSymbols, []⟩ (fun _ => none) [c, a, b] =
          some (s₂, ids₁) := by
  intro a b c
  have hrun : (createNodes (fun path => if path = c then some 5000 else none)
      (fun _ => some .Object) ⟨{ namespaceIndex := 1 }, []⟩ (fun _ => none) [a, b, c]).isSome =
        true := by decide +kernel
  obtain ⟨⟨s₁, ids₁⟩, hrun⟩ := Option.isSome_iff_exists.mp hrun
  obtain ⟨s₂, hagain⟩ := recreated_same 1 [] _ _ (fun _ => some .Object) hrun (by decide +kernel)
    (by decide +kernel) (by decide +kernel : [c, a, b].Perm [a, b, c])
    ⟨trivial, trivial, mem_cons_self, trivial⟩
  exact ⟨s₁, ids₁, s₂, hrun, hagain⟩

/-- **Nodes with one symbolic name**: a node `B` below `A`, and a node `A_B`. When the node `A_B` is
created first, the node `B` gets the number 1002; in the other order it gets that of `A_B`. -/
theorem recreated_different :
    let a : NodePath .ascii := .top ⟨1, some "A"⟩
    let b : NodePath .ascii := .child a .aggregates ⟨1, some "B"⟩
    let c : NodePath .ascii := .top ⟨1, some "A_B"⟩
    let first := createNodes (fun _ => none) (fun _ => some .Object) ⟨{ namespaceIndex := 1 }, []⟩
      (fun _ => none) [a, c, b]
    let second := first.bind fun r => createNodes (fun _ => none) (fun _ => some .Object)
      ⟨setSymbols { namespaceIndex := 1 } r.1.manager.getSymbols, []⟩ (fun _ => none) [a, b, c]
    ParentsFirst [] [] [a, c, b] ∧ ParentsFirst [] [] [a, b, c] ∧
      (first.bind fun r => r.2 b) = some ⟨1, .numeric 1002⟩ ∧
      (second.bind fun r => r.2 b) = some ⟨1, .numeric 1001⟩ := by
  intro a b c first second
  refine ⟨⟨trivial, trivial, ?_, trivial⟩, ⟨trivial, ?_, trivial, trivial⟩, ?_, ?_⟩
  · exact mem_cons_of_mem _ mem_cons_self
  · exact mem_cons_self
  · decide +kernel
  · decide +kernel

end NodePath

end NodeOpcua
