import Mathlib.Algebra.BigOperators.Group.Finset.Basic
import Mathlib.Algebra.Order.BigOperators.Group.Finset
import Mathlib.Logic.Relation

set_option autoImplicit false

/-!
# Depth-first traversal

A graph is walked from a node, each node once. The nodes that are still to be visited are on a stack,
which is the order of a recursive visit.

## Main definitions

* `Traversal.visit`.
* `Traversal.bound`.
-/

namespace Traversal

variable {α : Type} [DecidableEq α] (successors : α → List α)

/-- **The walk**: the nodes that have been seen, in the order of their visits. -/
def visit : ℕ → List α → List α → Option (List α)
  | _, [], seen => some seen
  | 0, _ :: _, _ => none
  | n + 1, x :: stack, seen =>
    if x ∈ seen then visit n stack seen
    else visit n (successors x ++ stack) (seen ++ [x])

/-- What is still to be visited, at most. -/
def bound (nodes : Finset α) (stack seen : List α) : ℕ :=
  stack.length + ∑ x ∈ nodes \ seen.toFinset, (successors x).length

variable {successors}

lemma bound_visit {nodes : Finset α} (hnodes : ∀ x ∉ nodes, successors x = []) {x : α}
    (stack : List α) {seen : List α} (hx : x ∉ seen) :
    bound successors nodes (successors x ++ stack) (seen ++ [x]) + 1 ≤
      bound successors nodes (x :: stack) seen := by
  unfold bound
  have hseen : nodes \ (seen ++ [x]).toFinset = (nodes \ seen.toFinset).erase x := by
    ext y
    simp
    tauto
  rw [hseen]
  by_cases hmem : x ∈ nodes
  · have hsum := Finset.add_sum_erase (nodes \ seen.toFinset)
      (fun y => (successors y).length) (a := x) (by simp [hmem, hx])
    simp only [List.length_append, List.length_cons]
    omega
  · have herase : (nodes \ seen.toFinset).erase x = nodes \ seen.toFinset :=
      Finset.erase_eq_of_notMem (by simp [hmem])
    rw [herase, hnodes x hmem]
    simp only [List.nil_append, List.length_cons]
    omega

variable {n : ℕ}

/-- **The walk ends** on a finite graph. -/
theorem visit_isSome {nodes : Finset α} (hnodes : ∀ x ∉ nodes, successors x = [])
    {stack seen : List α} (hn : bound successors nodes stack seen ≤ n) :
    (visit successors n stack seen).isSome := by
  induction n generalizing stack seen with
  | zero =>
    cases stack with
    | nil => simp [visit]
    | cons x stack => simp [bound] at hn
  | succ n ih =>
    cases stack with
    | nil => simp [visit]
    | cons x stack =>
      unfold visit
      split
      · apply ih
        unfold bound at hn ⊢
        simp only [List.length_cons] at hn
        omega
      · next hx =>
        have hvisit := bound_visit hnodes stack hx
        exact ih (by omega)

variable {stack seen result : List α}

section

variable (h : visit successors n stack seen = some result)
include h

lemma subset_visit :
    seen ⊆ result ∧ stack ⊆ result := by
  induction n generalizing stack seen with
  | zero =>
    cases stack with
    | nil =>
      obtain rfl := Option.some.inj h
      simp
    | cons x stack => cases h
  | succ n ih =>
    cases stack with
    | nil =>
      obtain rfl := Option.some.inj h
      simp
    | cons x stack =>
      unfold visit at h
      split at h
      · next hx =>
        obtain ⟨hseen, hstack⟩ := ih h
        exact ⟨hseen, List.cons_subset.mpr ⟨hseen hx, hstack⟩⟩
      · obtain ⟨hseen, hstack⟩ := ih h
        rw [List.append_subset] at hseen hstack
        refine ⟨hseen.1, List.cons_subset.mpr ⟨?_, hstack.2⟩⟩
        exact hseen.2 List.mem_cons_self

/-- **All that is visited is reached** from the stack. -/
lemma reached_of_mem_visit {y : α} (hy : y ∈ result) :
    y ∈ seen ∨ ∃ x ∈ stack, Relation.ReflTransGen (fun a b => b ∈ successors a) x y := by
  induction n generalizing stack seen with
  | zero =>
    cases stack with
    | nil =>
      obtain rfl := Option.some.inj h
      exact .inl hy
    | cons x stack => cases h
  | succ n ih =>
    cases stack with
    | nil =>
      obtain rfl := Option.some.inj h
      exact .inl hy
    | cons x stack =>
      unfold visit at h
      split at h
      · rcases ih h with hseen | ⟨z, hz, hreach⟩
        · exact .inl hseen
        · exact .inr ⟨z, List.mem_cons_of_mem _ hz, hreach⟩
      · rcases ih h with hseen | ⟨z, hz, hreach⟩
        · rcases List.mem_append.mp hseen with hseen | hx
          · exact .inl hseen
          · obtain rfl := List.mem_singleton.mp hx
            exact .inr ⟨y, List.mem_cons_self, .refl⟩
        · rcases List.mem_append.mp hz with hz | hz
          · exact .inr ⟨x, List.mem_cons_self, .head hz hreach⟩
          · exact .inr ⟨z, List.mem_cons_of_mem _ hz, hreach⟩

/-- **The nodes that are visited are closed under successors.** -/
lemma closed_visit (hclo : ∀ x ∈ seen, ∀ y ∈ successors x, y ∈ seen ∨ y ∈ stack) :
    ∀ x ∈ result, ∀ y ∈ successors x, y ∈ result := by
  induction n generalizing stack seen with
  | zero =>
    cases stack with
    | nil =>
      obtain rfl := Option.some.inj h
      intro x hx y hy
      simpa using hclo x hx y hy
    | cons x stack => cases h
  | succ n ih =>
    cases stack with
    | nil =>
      obtain rfl := Option.some.inj h
      intro x hx y hy
      simpa using hclo x hx y hy
    | cons z stack =>
      unfold visit at h
      split at h
      · next hz =>
        refine ih h fun x hx y hy => ?_
        rcases hclo x hx y hy with hseen | hstack
        · exact .inl hseen
        · rcases List.mem_cons.mp hstack with rfl | hstack
          · exact .inl hz
          · exact .inr hstack
      · refine ih h fun x hx y hy => ?_
        rcases List.mem_append.mp hx with hx | hx
        · rcases hclo x hx y hy with hseen | hstack
          · exact .inl (List.mem_append_left _ hseen)
          · rcases List.mem_cons.mp hstack with rfl | hstack
            · exact .inl (List.mem_append_right _ List.mem_cons_self)
            · exact .inr (List.mem_append_right _ hstack)
        · obtain rfl := List.mem_singleton.mp hx
          exact .inr (List.mem_append_left _ hy)

end

/-- **The walk visits what is reached.** -/
theorem mem_visit_iff {x : α} {result : List α} (h : visit successors n [x] [] = some result)
    (y : α) : y ∈ result ↔ Relation.ReflTransGen (fun a b => b ∈ successors a) x y := by
  constructor
  · intro hy
    obtain hnil | ⟨z, hz, hreach⟩ := reached_of_mem_visit h hy
    · cases hnil
    · rwa [← List.mem_singleton.mp hz]
  · intro hreach
    have hclo := closed_visit h fun z hz => absurd hz List.not_mem_nil
    induction hreach with
    | refl => exact (subset_visit h).2 List.mem_cons_self
    | tail _ hstep ih => exact hclo _ ih _ hstep

end Traversal
