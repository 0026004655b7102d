import Mathlib.Algebra.GroupWithZero.Nat
import Mathlib.Logic.Relation
import Mathlib.Data.List.Basic

set_option autoImplicit false

/-!
# A search for cycles

The nodes of a graph are inspected in depth-first order, with a stack of their own. The inspection
of a node fails or gives the nodes it refers to. A reference to a node that is still on the path
ends the search.

## Main definitions

* `AcyclicSearch.search`.
* `AcyclicSearch.Explorable`.

## Main results

* `AcyclicSearch.search_sound`, `AcyclicSearch.search_error`,
  `AcyclicSearch.Explorable.not_transGen`.
-/

namespace AcyclicSearch

variable {ε : Type}

/-- The state of a node. -/
inductive Color
  | unvisited
  | onPath
  | explored
  deriving DecidableEq

/-- A node on the path, with the references that are still to be followed. -/
structure Frame where
  node : ℕ
  pending : List ℕ

section

variable (inspect : ℕ → Except ε (List ℕ)) (cyclic : ε)

/-- The work that is left for a stack. -/
def work (stack : List Frame) : ℕ := (stack.map fun frame => frame.pending.length + 1).sum

lemma count_set_le (color : List Color) (i : ℕ) {c : Color} (hc : c ≠ .unvisited) :
    (color.set i c).count .unvisited ≤ color.count .unvisited := by
  induction color generalizing i with
  | nil => exact Nat.le_refl _
  | cons d color ih =>
    cases i with
    | zero =>
      rw [List.set_cons_zero, List.count_cons_of_ne hc]
      exact List.count_le_count_cons
    | succ i =>
      rw [List.set_cons_succ, List.count_cons, List.count_cons]
      exact Nat.add_le_add_right (ih i) _

lemma count_set_lt {color : List Color} {i : ℕ} (h : color[i]? = some .unvisited) {c : Color}
    (hc : c ≠ .unvisited) : (color.set i c).count .unvisited < color.count .unvisited := by
  induction color generalizing i with
  | nil => cases h
  | cons d color ih =>
    cases i with
    | zero =>
      obtain rfl : d = .unvisited := Option.some.inj h
      rw [List.set_cons_zero, List.count_cons_of_ne hc, List.count_cons_self]
      exact Nat.lt_succ_self _
    | succ i =>
      rw [List.set_cons_succ, List.count_cons, List.count_cons]
      exact Nat.add_lt_add_right (ih h) _

/-- The loop of the search, with the stack from its top. -/
def loop (color : List Color) (stack : List Frame) : Except ε Unit :=
  match stack with
  | [] => .ok ()
  | ⟨node, []⟩ :: stack => loop (color.set node .explored) stack
  | ⟨node, next :: pending⟩ :: stack =>
    match _h : color[next]? with
    | some .onPath => .error cyclic
    | some .unvisited =>
      match inspect next with
      | .error e => .error e
      | .ok targets => loop (color.set next .onPath) (⟨next, targets⟩ :: ⟨node, pending⟩ :: stack)
    | _ => loop color (⟨node, pending⟩ :: stack)
termination_by (color.count .unvisited, work stack)
decreasing_by
  · apply Prod.Lex.right'
    · exact count_set_le color node nofun
    · simp [work]
  · exact Prod.Lex.left _ _ (count_set_lt _h nofun)
  · apply Prod.Lex.right
    simp [work]

/-- **The search** from a node, in a graph with the nodes below a bound. -/
def search (n root : ℕ) : Except ε Unit :=
  match inspect root with
  | .error e => .error e
  | .ok targets =>
    loop inspect cyclic ((List.replicate n .unvisited).set root .onPath) [⟨root, targets⟩]

/-- **A node is explorable** when it is inspected and refers to explorable nodes only. -/
inductive Explorable : ℕ → Prop
  | intro {node : ℕ} {targets : List ℕ} (hinspect : inspect node = .ok targets)
      (htargets : ∀ target ∈ targets, Explorable target) : Explorable node

/-- One node refers to another. -/
def Refers (i j : ℕ) : Prop := ∃ targets, inspect i = .ok targets ∧ j ∈ targets

/-- **The invariant of the stack**: a reference of a node on the path has been followed to an
explorable node, or is still pending, or leads to the next node on the path. -/
def Followed (child : Option ℕ) : List Frame → Prop
  | [] => True
  | frame :: stack =>
    (∃ targets, inspect frame.node = .ok targets ∧
      ∀ t ∈ targets, Explorable inspect t ∨ t ∈ frame.pending ∨ child = some t) ∧
    Followed (some frame.node) stack

end

variable {inspect : ℕ → Except ε (List ℕ)} {cyclic : ε}

/-! ### Explorable nodes -/

lemma Explorable.refers {i j : ℕ} (h : Explorable inspect i) (hij : Refers inspect i j) :
    Explorable inspect j := by
  obtain ⟨targets, hinspect, hmem⟩ := hij
  cases h with
  | intro hinspect' htargets =>
    cases hinspect.symm.trans hinspect'
    exact htargets j hmem

lemma Explorable.reaches {i j : ℕ} (h : Explorable inspect i)
    (hij : Relation.ReflTransGen (Refers inspect) i j) : Explorable inspect j := by
  induction hij with
  | refl => exact h
  | tail _ hstep ih => exact ih.refers hstep

/-- **An explorable node is not on a cycle**. -/
theorem Explorable.not_transGen {i : ℕ} (h : Explorable inspect i) :
    ¬ Relation.TransGen (Refers inspect) i i := by
  induction h with
  | @intro node targets hinspect _ ih =>
    intro hcycle
    obtain ⟨t, hfirst, hrest⟩ := Relation.TransGen.head'_iff.mp hcycle
    obtain ⟨targets', hinspect', hmem⟩ := hfirst
    cases hinspect.symm.trans hinspect'
    exact ih t hmem (Relation.TransGen.tail' hrest ⟨targets, hinspect, hmem⟩)

/-! ### The search -/

variable {stack : List Frame}

lemma Followed.of_explorable {child : ℕ}
    (h : Followed inspect (some child) stack) (hchild : Explorable inspect child) :
    Followed inspect none stack := by
  cases stack with
  | nil => trivial
  | cons frame stack =>
    obtain ⟨⟨targets, hinspect, htargets⟩, hrest⟩ := h
    refine ⟨⟨targets, hinspect, fun t ht => ?_⟩, hrest⟩
    rcases htargets t ht with ht | ht | ht
    · exact Or.inl ht
    · exact Or.inr (Or.inl ht)
    · cases ht
      exact Or.inl hchild

lemma Followed.next {node next : ℕ} {pending : List ℕ} {stack : List Frame}
    (h : Followed inspect none (⟨node, next :: pending⟩ :: stack))
    (hnext : Explorable inspect next) : Followed inspect none (⟨node, pending⟩ :: stack) := by
  obtain ⟨⟨targets, hinspect, htargets⟩, hrest⟩ := h
  refine ⟨⟨targets, hinspect, fun t ht => ?_⟩, hrest⟩
  rcases htargets t ht with ht | ht | ht
  · exact Or.inl ht
  · rcases List.mem_cons.mp ht with rfl | ht
    · exact Or.inl hnext
    · exact Or.inr (Or.inl ht)
  · cases ht

/-- **The loop**: when it succeeds, all nodes on the path are explorable. -/
theorem loop_sound {n : ℕ} (hbound : ∀ i targets, inspect i = .ok targets → ∀ t ∈ targets, t < n)
    {color : List Color} (hlen : color.length = n)
    (hcolor : ∀ i, color[i]? = some .explored → Explorable inspect i)
    (hpend : ∀ frame ∈ stack, ∀ t ∈ frame.pending, t < n)
    (hstack : Followed inspect none stack) (h : loop inspect cyclic color stack = .ok ()) :
    ∀ frame ∈ stack, Explorable inspect frame.node := by
  induction color, stack using loop.induct inspect with
  | case1 color => exact nofun
  | case2 color node stack ih =>
    rw [loop] at h
    obtain ⟨⟨targets, hinspect, htargets⟩, hrest⟩ := hstack
    have hnode : Explorable inspect node := by
      refine Explorable.intro hinspect fun t ht => ?_
      rcases htargets t ht with ht | ht | ht
      · exact ht
      · cases ht
      · cases ht
    have hcolor' : ∀ i, (color.set node .explored)[i]? = some .explored → Explorable inspect i := by
      intro i hi
      by_cases hnode' : node = i
      · rw [← hnode']
        exact hnode
      · rw [List.getElem?_set_ne hnode'] at hi
        exact hcolor i hi
    have hstack' := ih (by rw [List.length_set, hlen]) hcolor'
      (fun frame hframe => hpend frame (by simp [hframe])) (hrest.of_explorable hnode) h
    intro frame hframe
    rcases List.mem_cons.mp hframe with rfl | hframe
    · exact hnode
    · exact hstack' frame hframe
  | case3 color node next pending stack hnext =>
    rw [loop, hnext] at h
    cases h
  | case4 color node next pending stack hnext e hinspect =>
    rw [loop, hnext] at h
    rw [hinspect] at h
    cases h
  | case5 color node next pending stack hnext targets hinspect ih =>
    rw [loop, hnext] at h
    rw [hinspect] at h
    obtain ⟨⟨targets', hinspect', htargets⟩, hrest⟩ := hstack
    have hcolor' : ∀ i, (color.set next .onPath)[i]? = some .explored → Explorable inspect i := by
      intro i hi
      by_cases hnext' : next = i
      · rw [← hnext', List.getElem?_set_self'] at hi
        rw [hnext] at hi
        cases hi
      · rw [List.getElem?_set_ne hnext'] at hi
        exact hcolor i hi
    have hpend' : ∀ frame ∈ (⟨next, targets⟩ :: ⟨node, pending⟩ :: stack : List Frame),
        ∀ t ∈ frame.pending, t < n := by
      intro frame hframe t ht
      rcases List.mem_cons.mp hframe with rfl | hframe
      · exact hbound next targets hinspect t ht
      · rcases List.mem_cons.mp hframe with rfl | hframe
        · exact hpend ⟨node, next :: pending⟩ (by simp) t (by simp [show t ∈ pending from ht])
        · exact hpend frame (by simp [hframe]) t ht
    have hstack' : Followed inspect none (⟨next, targets⟩ :: ⟨node, pending⟩ :: stack) := by
      refine ⟨⟨targets, hinspect, fun t ht => Or.inr (Or.inl ht)⟩,
        ⟨targets', hinspect', fun t ht => ?_⟩, hrest⟩
      rcases htargets t ht with ht | ht | ht
      · exact Or.inl ht
      · rcases List.mem_cons.mp ht with rfl | ht
        · exact Or.inr (Or.inr rfl)
        · exact Or.inr (Or.inl ht)
      · cases ht
    have hall := ih (by rw [List.length_set, hlen]) hcolor' hpend' hstack' h
    intro frame hframe
    rcases List.mem_cons.mp hframe with rfl | hframe
    · exact hall ⟨node, pending⟩ (by simp)
    · exact hall frame (by simp [hframe])
  | case6 color node next pending stack hpath hunvisited ih =>
    have hlt : next < color.length := by
      rw [hlen]
      exact hpend ⟨node, next :: pending⟩ (by simp) next (by simp)
    have hexplored : color[next]? = some .explored := by
      rw [List.getElem?_eq_getElem hlt] at hpath hunvisited ⊢
      cases hc : color[next] with
      | unvisited => exact absurd (congrArg some hc) hunvisited
      | onPath => exact absurd (congrArg some hc) hpath
      | explored => rfl
    rw [loop, hexplored] at h
    have hpend' : ∀ frame ∈ (⟨node, pending⟩ :: stack : List Frame), ∀ t ∈ frame.pending,
        t < n := by
      intro frame hframe t ht
      rcases List.mem_cons.mp hframe with rfl | hframe
      · exact hpend ⟨node, next :: pending⟩ (by simp) t (by simp [show t ∈ pending from ht])
      · exact hpend frame (by simp [hframe]) t ht
    have hall := ih hlen hcolor hpend' (hstack.next (hcolor next hexplored)) h
    intro frame hframe
    rcases List.mem_cons.mp hframe with rfl | hframe
    · exact hall ⟨node, pending⟩ (by simp)
    · exact hall frame (by simp [hframe])

lemma loop_error {color : List Color} {e : ε}
    (h : loop inspect cyclic color stack = .error e) : e = cyclic ∨ ∃ i, inspect i = .error e := by
  induction color, stack using loop.induct inspect with
  | case1 color =>
    rw [loop] at h
    cases h
  | case2 color node stack ih =>
    rw [loop] at h
    exact ih h
  | case3 color node next pending stack hnext =>
    rw [loop, hnext] at h
    cases h
    exact Or.inl rfl
  | case4 color node next pending stack hnext e' hinspect =>
    rw [loop, hnext] at h
    rw [hinspect] at h
    cases h
    exact Or.inr ⟨next, hinspect⟩
  | case5 color node next pending stack hnext targets hinspect ih =>
    rw [loop, hnext] at h
    rw [hinspect] at h
    exact ih h
  | case6 color node next pending stack hpath hunvisited ih =>
    rw [loop] at h
    split at h
    · next hnext => exact absurd hnext hpath
    · next hnext => exact absurd hnext hunvisited
    · exact ih h

/-- **What the search fails with**: a cycle, or what an inspection fails with. -/
theorem search_error {n root : ℕ} {e : ε} (h : search inspect cyclic n root = .error e) :
    e = cyclic ∨ ∃ i, inspect i = .error e := by
  rw [search] at h
  cases hinspect : inspect root with
  | error e' =>
    rw [hinspect] at h
    cases h
    exact Or.inr ⟨root, hinspect⟩
  | ok targets =>
    rw [hinspect] at h
    exact loop_error h

/-- **The search**: when it succeeds, its node is explorable. -/
theorem search_sound {n root : ℕ}
    (hbound : ∀ i targets, inspect i = .ok targets → ∀ t ∈ targets, t < n)
    (h : search inspect cyclic n root = .ok ()) : Explorable inspect root := by
  rw [search] at h
  cases hinspect : inspect root with
  | error e => rw [hinspect] at h; cases h
  | ok targets =>
    rw [hinspect] at h
    have hcolor : ∀ i, ((List.replicate n Color.unvisited).set root .onPath)[i]? = some .explored →
        Explorable inspect i := by
      intro i hi
      have hmem := List.mem_of_getElem? hi
      rcases List.mem_or_eq_of_mem_set hmem with hmem | hmem
      · cases (List.mem_replicate.mp hmem).2
      · cases hmem
    have hpend : ∀ frame ∈ ([⟨root, targets⟩] : List Frame), ∀ t ∈ frame.pending, t < n := by
      intro frame hframe t ht
      obtain rfl := List.mem_singleton.mp hframe
      exact hbound root targets hinspect t ht
    have hstack : Followed inspect none [⟨root, targets⟩] :=
      ⟨⟨targets, hinspect, fun t ht => Or.inr (Or.inl ht)⟩, trivial⟩
    have hall := loop_sound hbound (by rw [List.length_set, List.length_replicate]) hcolor hpend
      hstack h
    exact hall ⟨root, targets⟩ (by simp)

end AcyclicSearch
