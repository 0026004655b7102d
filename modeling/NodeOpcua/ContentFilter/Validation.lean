import NodeOpcua.ContentFilter.Basic

set_option autoImplicit false

/-!
# The validation of a filter

When a filter is found to be good, every element that can be traced back to the first one has the
operands its operator needs, refers to elements of the filter only, and is on no cycle.

## Main definitions

* `ContentFilter.Refers`.

## Main results

* `explorable_of_good`, `count_of_good`, `not_cyclic_of_good`.
-/

namespace NodeOpcua

open AcyclicSearch

variable {U : CaseMapping} {X : Type}

/-- An element has an operand that refers to another element. -/
def ContentFilter.Refers (filter : ContentFilter U X) (i j : ℤ) : Prop :=
  ∃ element, filter.elementAt i = some element ∧
    some (.elementOperand j) ∈ element.filterOperands.getD []

lemma collectTargets_skip (n : ℕ) {operand : Option (FilterOperand U X)}
    (operands : List (Option (FilterOperand U X)))
    (hopd : ∀ index, operand = some (.elementOperand index) → False) :
    collectTargets n (operand :: operands) = collectTargets n operands := by
  rcases operand with _ | operand
  · rfl
  · cases operand with
    | elementOperand index => exact absurd rfl (hopd index)
    | _ => rfl

variable {operands : List (Option (FilterOperand U X))}

/-- **The indices** in the operands, when they are within the bounds. -/
lemma collectTargets_ok {n : ℕ} {targets : List ℕ} (h : collectTargets n operands = .ok targets) :
    (∀ t ∈ targets, t < n) ∧
      ∀ index, some (.elementOperand index) ∈ operands → ∃ t ∈ targets, index = (t : ℤ) := by
  induction operands using collectTargets.induct n generalizing targets with
  | case1 =>
    cases h
    exact ⟨nofun, nofun⟩
  | case2 index operands hbound =>
    rw [collectTargets, if_pos hbound] at h
    cases h
  | case3 index operands hbound ih =>
    rw [collectTargets, if_neg hbound] at h
    obtain ⟨targets', hrest, rfl⟩ := Except.bind_pure_eq_ok_iff.mp h
    obtain ⟨hlt, hmem⟩ := ih hrest
    constructor
    · intro t ht
      rcases List.mem_cons.mp ht with rfl | ht
      · omega
      · exact hlt t ht
    · intro index' hindex'
      rcases List.mem_cons.mp hindex' with heq | hindex'
      · cases heq
        exact ⟨index.toNat, by simp, by omega⟩
      · obtain ⟨t, ht, heq⟩ := hmem index' hindex'
        exact ⟨t, by simp [ht], heq⟩
  | case4 operand operands hopd ih =>
    rw [collectTargets_skip n operands hopd] at h
    obtain ⟨hlt, hmem⟩ := ih h
    refine ⟨hlt, fun index hindex => ?_⟩
    rcases List.mem_cons.mp hindex with heq | hindex
    · exact absurd heq.symm (hopd index)
    · exact hmem index hindex

variable {filter : ContentFilter U X} {i : ℕ}

/-- **The inspection** of an element. -/
lemma inspect_ok {targets : List ℕ} (h : inspect filter i = .ok targets) :
    (∀ t ∈ targets, t < (filter.elements.getD []).length) ∧
      ∀ elem, filter.elementAt i = some elem →
        countMatches elem.filterOperator (elem.filterOperands.getD []).length = true ∧
          ∀ index, some (.elementOperand index) ∈ elem.filterOperands.getD [] →
            ∃ t ∈ targets, index = (t : ℤ) := by
  rw [inspect] at h
  cases helem : filter.elementAt i with
  | none =>
    rw [helem] at h
    cases h
    exact ⟨nofun, nofun⟩
  | some elem =>
    rw [helem] at h
    dsimp only at h
    split_ifs at h with hcount
    obtain ⟨hlt, hmem⟩ := collectTargets_ok h
    refine ⟨hlt, fun elem' helem' => ?_⟩
    cases helem'
    exact ⟨hcount, hmem⟩

variable {statusCode : StatusCode}

lemma collectTargets_error {n : ℕ} (h : collectTargets n operands = .error statusCode) :
    statusCode = .BadFilterElementInvalid := by
  induction operands using collectTargets.induct n with
  | case1 => cases h
  | case2 index operands hbound =>
    rw [collectTargets, if_pos hbound] at h
    cases h
    rfl
  | case3 index operands hbound ih =>
    rw [collectTargets, if_neg hbound] at h
    cases hrest : collectTargets n operands with
    | error status' =>
      rw [hrest] at h
      cases h
      exact ih hrest
    | ok targets =>
      rw [hrest] at h
      cases h
  | case4 operand operands hopd ih =>
    rw [collectTargets_skip n operands hopd] at h
    exact ih h

lemma inspect_error (h : inspect filter i = .error statusCode) : statusCode ≠ .Good := by
  rw [inspect] at h
  cases helem : filter.elementAt i with
  | none =>
    rw [helem] at h
    cases h
  | some elem =>
    rw [helem] at h
    dsimp only at h
    split_ifs at h with hcount
    · rw [collectTargets_error h]
      decide
    · cases h
      decide

/-- **The elements of a good filter** are explorable from the first one. -/
theorem explorable_of_good
    (h : validateContentFilter filter = .Good) (hne : filter.elements.getD [] ≠ []) :
    Explorable (inspect filter) 0 := by
  rw [validateContentFilter, if_neg (by rwa [List.length_eq_zero_iff])] at h
  cases hsearch : search (inspect filter) StatusCode.BadFilterElementInvalid
      (filter.elements.getD []).length 0 with
  | ok u => exact search_sound (fun i targets hi => (inspect_ok hi).1) hsearch
  | error status =>
    rw [hsearch] at h
    exfalso
    rcases search_error hsearch with rfl | ⟨i, hi⟩
    · exact absurd h (by decide)
    · exact inspect_error hi h

lemma refers_of_explorable (h : Explorable (inspect filter) i) {j : ℤ} (hij : filter.Refers i j) :
    ∃ t : ℕ, j = t ∧ AcyclicSearch.Refers (inspect filter) i t := by
  obtain ⟨elem, helem, hmem⟩ := hij
  cases h with
  | intro hinspect htargets =>
    obtain ⟨t, ht, heq⟩ := ((inspect_ok hinspect).2 elem helem).2 j hmem
    exact ⟨t, heq, _, hinspect, ht⟩

lemma reaches_of_explorable (h : Explorable (inspect filter) i) {j : ℤ}
    (hij : Relation.ReflTransGen filter.Refers i j) :
    ∃ t : ℕ, j = t ∧ Relation.ReflTransGen (AcyclicSearch.Refers (inspect filter)) i t := by
  induction hij with
  | refl => exact ⟨i, rfl, Relation.ReflTransGen.refl⟩
  | tail _ hstep ih =>
    obtain ⟨t, rfl, hreach⟩ := ih
    obtain ⟨t', heq, hrefers⟩ := refers_of_explorable (h.reaches hreach) hstep
    exact ⟨t', heq, hreach.tail hrefers⟩

lemma elementAt_of_nil (h : filter.elements.getD [] = []) (i : ℤ) :
    filter.elementAt i = none := by
  rw [ContentFilter.elementAt, h]
  split_ifs <;> rfl

section

variable (h : validateContentFilter filter = .Good) {i : ℤ}
  (hi : Relation.ReflTransGen filter.Refers 0 i)
include h hi

/-- **The numbers of operands** of the elements that are reached in a good filter. -/
theorem count_of_good {elem : ContentFilterElement U X}
    (helem : filter.elementAt i = some elem) :
    countMatches elem.filterOperator (elem.filterOperands.getD []).length = true := by
  by_cases hne : filter.elements.getD [] = []
  · rw [elementAt_of_nil hne] at helem
    cases helem
  · have hexpl := explorable_of_good h hne
    obtain ⟨t, rfl, hreach⟩ := reaches_of_explorable hexpl hi
    cases hexpl.reaches hreach with
    | intro hinspect _ => exact ((inspect_ok hinspect).2 elem helem).1

/-- **A good filter has no cycle** that is reached from its first element. -/
theorem not_cyclic_of_good :
    ¬ Relation.TransGen filter.Refers i i := by
  intro hcycle
  by_cases hne : filter.elements.getD [] = []
  · obtain ⟨j, ⟨element, helem, -⟩, -⟩ := Relation.TransGen.head'_iff.mp hcycle
    rw [elementAt_of_nil hne] at helem
    cases helem
  · have hexpl := explorable_of_good h hne
    obtain ⟨t, rfl, hreach⟩ := reaches_of_explorable hexpl hi
    obtain ⟨j, hfirst, hrest⟩ := Relation.TransGen.head'_iff.mp hcycle
    have ht := hexpl.reaches hreach
    obtain ⟨t', rfl, hrefers⟩ := refers_of_explorable ht hfirst
    obtain ⟨t'', heq, hreach'⟩ := reaches_of_explorable (ht.refers hrefers) hrest
    obtain rfl : t = t'' := Int.ofNat_inj.mp heq
    exact ht.not_transGen (Relation.TransGen.head' hrefers hreach')

end

end NodeOpcua
