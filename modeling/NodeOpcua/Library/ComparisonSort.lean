import Mathlib.Data.List.Sort
import Mathlib.Tactic.Lemma

set_option autoImplicit false

/-!
# Sorting by a comparator

A stable sort is handed a comparator, which may be anything. It exchanges two elements only when the
comparator says that they are in the wrong order, and it sorts when the comparator is consistent.

## Main definitions

* `ComparisonSort.Consistent`.
* `ComparisonSort.Rearranges`, `ComparisonSort.StableSort`, `ComparisonSort.insertionSort`.

## Main results

* `ComparisonSort.Rearranges.getLast?_eq`, `ComparisonSort.insertionSort_sort_eq_self`.

## Design

An element is known by its place in the list that is sorted, as equal elements may occur twice.
-/

namespace ComparisonSort

variable {α : Type}

/-- **A consistent comparator**: a total preorder, by the signs of the results. -/
structure Consistent (compare : α → α → ℤ) : Prop where
  antisymm : ∀ a b, compare a b < 0 ↔ 0 < compare b a
  trans : ∀ a b c, compare a b ≤ 0 → compare b c ≤ 0 → compare a c ≤ 0

/-- Two elements with their places, one before the other in the result: when they have been exchanged,
the comparator has said so. -/
def InPlaceOrExchanged (compare : α → α → ℤ) (x y : α × ℕ) : Prop :=
  y.2 < x.2 → compare x.1 y.1 < 0 ∨ 0 < compare y.1 x.1

/-- **A rearrangement**: a permutation where two elements are exchanged only when the comparator is
negative for the later and the earlier, or positive for the earlier and the later. -/
def Rearranges (compare : α → α → ℤ) (l sorted : List α) : Prop :=
  ∃ placed : List (α × ℕ), placed.Perm l.zipIdx ∧ placed.map Prod.fst = sorted ∧
    placed.Pairwise (InPlaceOrExchanged compare)

/-- **A stable sort**, for every comparator. -/
structure StableSort (α : Type) where
  sort : (α → α → ℤ) → List α → List α
  rearranges : ∀ compare l, Rearranges compare l (sort compare l)
  sorts : ∀ compare, Consistent compare → ∀ l, (sort compare l).Pairwise fun a b => compare a b ≤ 0

/-! ### What a rearrangement keeps -/

variable {compare : α → α → ℤ} {l sorted : List α}

lemma Rearranges.perm (h : Rearranges compare l sorted) : sorted.Perm l := by
  obtain ⟨placed, hperm, rfl, -⟩ := h
  have hfst := hperm.map Prod.fst
  rwa [List.zipIdx_map_fst] at hfst

lemma nodup_places (l : List α) : (l.zipIdx.map Prod.snd).Nodup := by
  rw [List.zipIdx_map_snd]
  exact List.nodup_range'

/-- **The last element stays the last** when the comparator never puts it before another. -/
theorem Rearranges.getLast?_eq (h : Rearranges compare l sorted) {last : α}
    (hlast : l.getLast? = some last)
    (hstays : ∀ x ∈ l, 0 ≤ compare last x ∧ compare x last ≤ 0) :
    sorted.getLast? = some last := by
  obtain ⟨placed, hperm, rfl, hpairwise⟩ := h
  obtain ⟨initial, rfl⟩ : ∃ initial, l = initial ++ [last] := by
    obtain ⟨initial, hinit⟩ := List.getLast?_eq_some_iff.mp hlast
    exact ⟨initial, hinit⟩
  have hplc : (last, initial.length) ∈ placed := by
    rw [hperm.mem_iff, List.zipIdx_append]
    simp
  obtain ⟨before, after, rfl⟩ := List.append_of_mem hplc
  rcases List.eq_nil_or_concat after with rfl | ⟨between, y, rfl⟩
  · simp
  · -- an element after it would have been exchanged with it
    exfalso
    have hy : y ∈ (initial ++ [last]).zipIdx := by
      rw [← hperm.mem_iff]
      simp
    have hle : y.2 < (initial ++ [last]).length := by
      simpa using List.snd_lt_of_mem_zipIdx hy
    have hne : y.2 ≠ initial.length := by
      have hnodup := (hperm.map Prod.snd).nodup_iff.mpr (nodup_places _)
      rw [List.map_append, List.nodup_append] at hnodup
      have hcons := (List.nodup_cons.mp hnodup.2.1).1
      intro heq
      apply hcons
      simp [← heq]
    have hexchanged := (List.pairwise_cons.mp (List.pairwise_append.mp hpairwise).2.1).1 y
      (by simp)
    have hlt : y.2 < initial.length := by
      simp at hle
      omega
    obtain ⟨hfirst, hsnd⟩ := hstays y.1 (List.fst_mem_of_mem_zipIdx hy)
    rcases hexchanged hlt with hneg | hpositive
    · exact absurd hneg (not_lt.mpr hfirst)
    · exact absurd hpositive (not_lt.mpr hsnd)

/-! ### Insertion -/

lemma pairwise_orderedInsert {x : α × ℕ} {placed : List (α × ℕ)}
    (h : placed.Pairwise (InPlaceOrExchanged compare)) (hearlier : ∀ y ∈ placed, x.2 < y.2) :
    (placed.orderedInsert (fun x y => 0 ≤ compare y.1 x.1) x).Pairwise
      (InPlaceOrExchanged compare) := by
  induction placed with
  | nil => simp
  | cons y placed ih =>
    obtain ⟨hy, hplc⟩ := List.pairwise_cons.mp h
    rw [List.orderedInsert_cons]
    by_cases hle : 0 ≤ compare y.1 x.1
    · rw [if_pos hle]
      refine List.pairwise_cons.mpr ⟨fun z hz hexchanged => ?_, h⟩
      have hbefore := hearlier z hz
      omega
    · rw [if_neg hle]
      refine List.pairwise_cons.mpr ⟨fun z hz => ?_, ih hplc fun z hz => ?_⟩
      · rcases (List.mem_orderedInsert _).mp hz with rfl | hz
        · exact fun _ => .inl (not_le.mp hle)
        · exact hy z hz
      · exact hearlier z (List.mem_cons_of_mem _ hz)

lemma rearranges_insertionSort (compare : α → α → ℤ) (l : List α) :
    Rearranges compare l (l.insertionSort fun a b => 0 ≤ compare b a) := by
  refine ⟨l.zipIdx.insertionSort fun x y => 0 ≤ compare y.1 x.1,
    List.perm_insertionSort _ _, ?_, ?_⟩
  · rw [List.map_insertionSort _ (fun a b => 0 ≤ compare b a) Prod.fst _ (fun _ _ _ _ => Iff.rfl),
      List.zipIdx_map_fst]
  · generalize 0 = k
    induction l generalizing k with
    | nil => simp
    | cons a l ih =>
      refine pairwise_orderedInsert (ih (k + 1)) fun y hy => ?_
      have hplace := List.le_snd_of_mem_zipIdx ((List.mem_insertionSort _).mp hy)
      exact hplace

lemma pairwise_insertionSort (h : Consistent compare) (l : List α) :
    (l.insertionSort fun a b => 0 ≤ compare b a).Pairwise fun a b => compare a b ≤ 0 := by
  have hle : ∀ a b, 0 ≤ compare b a ↔ compare a b ≤ 0 := by
    intro a b
    have hsign := h.antisymm b a
    omega
  have : Std.Total fun a b => 0 ≤ compare b a := ⟨fun a b => by
    have hsign := h.antisymm b a
    omega⟩
  have : IsTrans α fun a b => 0 ≤ compare b a := ⟨fun a b c hab hbc => by
    rw [hle] at hab hbc ⊢
    exact h.trans a b c hab hbc⟩
  exact (List.pairwise_insertionSort (fun a b => 0 ≤ compare b a) l).imp fun hab => (hle _ _).mp hab

/-- **A sort that asks only whether a later element is less than an earlier one.** -/
def insertionSort (α : Type) : StableSort α where
  sort compare l := l.insertionSort fun a b => 0 ≤ compare b a
  rearranges := rearranges_insertionSort
  sorts _ h l := pairwise_insertionSort h l

/-- **Nothing is exchanged** when the comparator is never negative. -/
theorem insertionSort_sort_eq_self (h : ∀ a b, 0 ≤ compare a b) (l : List α) :
    (insertionSort α).sort compare l = l := by
  apply List.Pairwise.insertionSort_eq
  exact List.Pairwise.imp (fun _ => h _ _) (List.pairwise_of_forall fun _ _ => trivial)

end ComparisonSort
