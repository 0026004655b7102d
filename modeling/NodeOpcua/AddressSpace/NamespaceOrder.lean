import Mathlib.Data.List.Induction
import Mathlib.Logic.Function.Basic
import NodeOpcua.Library.DepthFirst

set_option autoImplicit false

/-!
# The order of namespaces

A namespace is loaded after the namespaces it requires, and a file that exports a namespace numbers
the namespaces it mentions.

## Main definitions

* `constructNamespacePriorityTable`, `_constructNamespaceTranslationTable`.

## Design

* A namespace is its index, and what it requires is given: the source collects it from the nodes.
-/

namespace NodeOpcua.AddressSpace

open DepthFirst

/-! ### The source -/

/-- `RequiredModel`. -/
structure RequiredModel where
  requiredNamespaceIndexes : List ℕ
  nbTypes : ℕ

/-- `map.get(index)`. The namespace of OPC UA requires none. -/
def mapGet (others : List RequiredModel) (index : ℕ) : Option RequiredModel :=
  (⟨[], 1⟩ :: others)[index]?

/-- What `h` visits after a namespace. -/
def required (others : List RequiredModel) (index : ℕ) : Option (List ℕ) :=
  (mapGet others index).map RequiredModel.requiredNamespaceIndexes

/-- `priorityTable`, of a loading order. -/
def priorityTable (loadingOrder : List ℕ) : ℕ → Option ℕ :=
  loadingOrder.zipIdx.foldl (fun table entry => Function.update table entry.1 (some entry.2))
    fun _ => none

/-- The namespaces that define types, or those that do not. -/
def withTypes (others : List RequiredModel) (hasTypes : Bool) : List ℕ :=
  (List.range (others.length + 1)).filter fun i =>
    (mapGet others i).any (·.nbTypes != 0) = hasTypes

/-- The loading order of `constructNamespacePriorityTable`. -/
def constructNamespacePriorityTable (others : List RequiredModel) : Option (List ℕ) := do
  let h := visit (required others) (others.length + 2)
  return (← h (withTypes others false) (← h (withTypes others true) ⟨[0], [0]⟩)).order

/-- `translationTable.set(index, counter++)`, on the table and the counter. -/
def setNext (t : (ℕ → Option ℕ) × ℕ) (index : ℕ) : (ℕ → Option ℕ) × ℕ :=
  (Function.update t.1 index (some t.2), t.2 + 1)

/-- `_constructNamespaceTranslationTable`, where the first dependency is the namespace of OPC UA. -/
def _constructNamespaceTranslationTable (dependency : List ℕ) (exportedNamespace : Option ℕ) :
    ℕ → Option ℕ :=
  let t := setNext (fun _ => none, 0) 0
  match dependency with
  | [] => t.1
  | _ :: dependency =>
    let t := exportedNamespace.elim t (setNext t)
    (dependency.foldl (fun t dep => if exportedNamespace = some dep then t else setNext t dep) t).1

/-! ### The loading order -/

lemma priorityTable_concat (loadingOrder : List ℕ) (last : ℕ) :
    priorityTable (loadingOrder ++ [last]) =
      Function.update (priorityTable loadingOrder) last (some loadingOrder.length) := by
  simp [priorityTable, List.zipIdx_append]

lemma priorityTable_eq_some_iff {loadingOrder : List ℕ} (h : loadingOrder.Nodup) (k i : ℕ) :
    priorityTable loadingOrder k = some i ↔ loadingOrder[i]? = some k := by
  induction loadingOrder using List.reverseRecOn with
  | nil => simp [priorityTable]
  | append_singleton loadingOrder last ih =>
    obtain ⟨hnodup, -, hlast⟩ := List.nodup_append.mp h
    have hlt : loadingOrder[i]? = some k → i < loadingOrder.length := fun hi =>
      (List.getElem?_eq_some_iff.mp hi).1
    rw [priorityTable_concat, List.getElem?_append]
    rcases eq_or_ne k last with rfl | hk
    · have hnot : loadingOrder[i]? ≠ some k := fun hi =>
        hlast k (List.mem_of_getElem? hi) k (List.mem_singleton_self k) rfl
      rw [Function.update_self, Option.some.injEq]
      grind
    · rw [Function.update_of_ne hk, ih hnodup]
      grind

lemma ordered_ua (others : List RequiredModel) : Ordered (required others) [] ⟨[0], [0]⟩ := by
  refine ⟨by simp, nofun, List.nodup_singleton 0, fun n hn => ?_, fun a ha b hab => ?_⟩
  · rw [List.mem_singleton.mp hn]
    rfl
  · obtain ⟨next, hnext, hb⟩ := hab
    rw [List.mem_singleton.mp ha] at hnext
    cases hnext
    cases hb

lemma required_lt {others : List RequiredModel}
    (hrequired : ∀ model ∈ others, ∀ r ∈ model.requiredNamespaceIndexes, r ≤ others.length) :
    ∀ n ∈ Finset.range (others.length + 1), ∃ next, required others n = some next ∧
      ∀ t ∈ next, t ∈ Finset.range (others.length + 1) := by
  intro n hn
  have hlt : n < (⟨[], 1⟩ :: others).length := Finset.mem_range.mp hn
  refine ⟨_, congrArg _ (List.getElem?_eq_getElem hlt), fun t ht => ?_⟩
  rcases List.mem_cons.mp (List.getElem_mem hlt) with hua | hmem
  · rw [hua] at ht
    cases ht
  · exact Finset.mem_range.mpr (Nat.lt_succ_of_le (hrequired _ hmem t ht))

/-- **The loading order** has each namespace once, first that of OPC UA. What a namespace requires is
loaded before it, unless it requires that namespace in turn. The priorities are the places in the
order. -/
theorem constructNamespacePriorityTable_order {others : List RequiredModel}
    (hrequired : ∀ model ∈ others, ∀ r ∈ model.requiredNamespaceIndexes, r ≤ others.length) :
    ∃ loadingOrder, constructNamespacePriorityTable others = some loadingOrder ∧
      loadingOrder.Perm (List.range (others.length + 1)) ∧ loadingOrder.head? = some 0 ∧
      (∀ k i, priorityTable loadingOrder k = some i ↔ loadingOrder[i]? = some k) ∧
      ∀ a b i j, Refers (required others) a b → priorityTable loadingOrder a = some i →
        priorityTable loadingOrder b = some j → j < i ∨ Leads (required others) b a := by
  have hvisit : ∀ (hasTypes : Bool) (s : State ℕ), Ordered (required others) [] s → ∃ s',
      visit (required others) (others.length + 2) (withTypes others hasTypes) s = some s' ∧
      Grown (required others) [] s s' ∧ ∀ n ∈ withTypes others hasTypes, n ∈ s'.order := by
    intro hasTypes s hs
    obtain ⟨s', hs', hgrown, hall⟩ := visit_grown (required_lt hrequired) hs
      (fun n hn => ⟨Finset.mem_range.mpr (List.mem_range.mp (List.mem_filter.mp hn).1), nofun⟩)
      (Nat.lt_succ_of_le ((Finset.card_le_card Finset.sdiff_subset).trans (Finset.card_range _).le))
    exact ⟨s', hs', hgrown, fun n hn =>
      ((hgrown.ordered.visited_iff n).mp (hall n hn)).resolve_left nofun⟩
  obtain ⟨s, hs, hgrown, hall⟩ := hvisit true _ (ordered_ua others)
  obtain ⟨s', hs', hgrown', hall'⟩ := hvisit false s hgrown.ordered
  have hinverse := priorityTable_eq_some_iff hgrown'.ordered.nodup
  have hidx : ∀ k i, priorityTable s'.order k = some i → s'.order.idxOf k = i ∧ k ∈ s'.order := by
    intro k i hk
    obtain ⟨hlt, rfl⟩ := List.getElem?_eq_some_iff.mp ((hinverse k i).mp hk)
    exact ⟨hgrown'.ordered.nodup.idxOf_getElem i hlt, List.getElem_mem hlt⟩
  refine ⟨s'.order, by simp only [constructNamespacePriorityTable, hs, hs', Option.bind_eq_bind,
    Option.bind_some, Option.pure_def], ?_, ?_, hinverse, fun a b i j hab ha hb => ?_⟩
  · refine (List.perm_ext_iff_of_nodup hgrown'.ordered.nodup List.nodup_range).mpr fun n =>
      ⟨fun hn => ?_, fun hn => ?_⟩
    · have hsome := hgrown'.ordered.isSome n hn
      rw [required, Option.isSome_map, mapGet, isSome_getElem?] at hsome
      exact List.mem_range.mpr hsome
    · cases htypes : (mapGet others n).any (·.nbTypes != 0) with
      | true => exact hgrown'.isPrefix.subset (hall n (List.mem_filter.mpr ⟨hn, decide_eq_true htypes⟩))
      | false => exact hall' n (List.mem_filter.mpr ⟨hn, decide_eq_true htypes⟩)
  · obtain ⟨rest, hrest⟩ := hgrown.isPrefix.trans hgrown'.isPrefix
    rw [← hrest]
    rfl
  · obtain ⟨rfl, hmem⟩ := hidx a i ha
    obtain ⟨rfl, -⟩ := hidx b j hb
    exact hgrown'.ordered.before a hmem b hab

/-- Of three namespaces the second requires the third. -/
theorem constructNamespacePriorityTable_order_three :
    ∃ loadingOrder, constructNamespacePriorityTable [⟨[0, 2], 1⟩, ⟨[0], 1⟩] = some loadingOrder ∧
      loadingOrder.Perm [0, 1, 2] := by
  have hrequired : ∀ model ∈ [RequiredModel.mk [0, 2] 1, ⟨[0], 1⟩],
      ∀ r ∈ model.requiredNamespaceIndexes, r ≤ 2 := by decide
  obtain ⟨loadingOrder, hsome, hperm, -⟩ := constructNamespacePriorityTable_order hrequired
  exact ⟨loadingOrder, hsome, hperm⟩

/-! ### The translation table -/

lemma foldl_setNext (e : ℕ) (dependency numbered : List ℕ) :
    (dependency.foldl (fun t dep => if some e = some dep then t else setNext t dep)
      (priorityTable numbered, numbered.length)).1 =
        priorityTable (numbered ++ dependency.filter (e ≠ ·)) := by
  induction dependency generalizing numbered with
  | nil => rw [List.filter_nil, List.append_nil, List.foldl_nil]
  | cons dep dependency ih =>
    rw [List.foldl_cons]
    by_cases he : e = dep
    · rw [if_pos (congrArg some he), ih, List.filter_cons_of_neg (by simpa using he)]
    · have hset : setNext (priorityTable numbered, numbered.length) dep =
          (priorityTable (numbered ++ [dep]), (numbered ++ [dep]).length) := by
        rw [setNext, priorityTable_concat, List.length_append, List.length_singleton]
      rw [if_neg (fun h => he (Option.some.inj h)), hset, ih, List.append_assoc,
        List.filter_cons_of_pos (by simpa using he), List.singleton_append]

/-- **The translation table** numbers the namespace of OPC UA, the exported one and then the others
that it depends on, each once. -/
theorem _constructNamespaceTranslationTable_order {dependency : List ℕ} {e : ℕ} (he : e ≠ 0)
    (hnodup : (0 :: dependency.filter (e ≠ ·)).Nodup) (k v : ℕ) :
    _constructNamespaceTranslationTable (0 :: dependency) (some e) k = some v ↔
      (0 :: e :: dependency.filter (e ≠ ·))[v]? = some k := by
  have hinit : setNext (setNext (fun _ => none, 0) 0) e = (priorityTable [0, e], 2) := rfl
  have htable : _constructNamespaceTranslationTable (0 :: dependency) (some e) =
      priorityTable (0 :: e :: dependency.filter (e ≠ ·)) := by
    rw [_constructNamespaceTranslationTable, Option.elim_some, hinit]
    exact foldl_setNext e dependency [0, e]
  have hall : (0 :: e :: dependency.filter (e ≠ ·)).Nodup := by
    simp only [List.nodup_cons, List.mem_cons, List.mem_filter] at hnodup ⊢
    simp_all [eq_comm]
  rw [htable, priorityTable_eq_some_iff hall]

/-- A namespace that depends on two others, and on itself. -/
theorem _constructNamespaceTranslationTable_order_two :
    _constructNamespaceTranslationTable [0, 3, 2, 4] (some 2) 2 = some 1 :=
  (_constructNamespaceTranslationTable_order (by decide) (by decide) 2 1).mpr rfl

end NodeOpcua.AddressSpace
