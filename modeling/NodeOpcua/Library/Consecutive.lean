import Mathlib.Data.List.Basic
import Mathlib.Data.List.Infix
import Mathlib.Tactic.Common

set_option autoImplicit false

/-!
# Consecutively numbered lists

Lists whose elements carry the numbers `n`, `n + 1`, `n + 2` and so on, as the packets of a
channel with sequence numbers do. Nothing here depends on the program under verification.

## Main definitions

* `Consecutive.From`.

## Main results

* `Consecutive.From.prefix_of_mem`, `Consecutive.From.infix_of_mem`,
  `Consecutive.From.exists_filter_le`, `Consecutive.From.not_replay`, `not_gap`, `not_swap`.
-/

namespace Consecutive

variable {α : Type*} (number : α → ℕ)

/-- The elements of the list are numbered consecutively from `n`. -/
def From : ℕ → List α → Prop
  | _, [] => True
  | n, a :: as => number a = n ∧ From (n + 1) as

variable {number}

@[simp] lemma from_nil (n : ℕ) : From number n [] := trivial

variable {n : ℕ} {as : List α}

@[simp] lemma from_cons {a : α} :
    From number n (a :: as) ↔ number a = n ∧ From number (n + 1) as := Iff.rfl

lemma from_append {as bs : List α} :
    From number n (as ++ bs) ↔ From number n as ∧ From number (n + as.length) bs := by
  induction as generalizing n with
  | nil => simp
  | cons a as ih =>
    rw [List.cons_append, from_cons, from_cons, ih, List.length_cons, and_assoc,
      Nat.add_right_comm, Nat.add_assoc]

lemma From.number_mem (h : From number n as) {a : α} (ha : a ∈ as) :
    n ≤ number a ∧ number a < n + as.length := by
  induction as generalizing n with
  | nil => cases ha
  | cons b bs ih =>
    obtain ⟨hb, hbs⟩ := h
    rw [List.length_cons]
    rcases List.mem_cons.mp ha with rfl | ha
    · omega
    · have := ih hbs ha
      omega

variable {sent as : List α}

/-- **Prefix**: a list numbered from `n` whose elements are in another list numbered from `n` is a
prefix of it.

**Proof sketch.** Induction on the longer list. The heads have the same number, so they are the
same element: the others of the longer list have larger numbers. -/
theorem From.prefix_of_mem (hsent : From number n sent)
    (h : From number n as) (hmem : ∀ a ∈ as, a ∈ sent) : as <+: sent := by
  induction sent generalizing n as with
  | nil =>
    cases as with
    | nil => exact List.prefix_rfl
    | cons a as => cases hmem a List.mem_cons_self
  | cons b sent ih =>
    cases as with
    | nil => exact List.nil_prefix
    | cons a as =>
      obtain ⟨hb, hsent⟩ := hsent
      obtain ⟨ha, has⟩ := h
      have hab : a = b := by
        rcases List.mem_cons.mp (hmem a List.mem_cons_self) with hab | hmem'
        · exact hab
        · have := (hsent.number_mem hmem').1
          omega
      subst hab
      refine List.prefix_cons_inj a |>.mpr (ih hsent has fun c hc => ?_)
      rcases List.mem_cons.mp (hmem c (List.mem_cons_of_mem _ hc)) with rfl | hmem'
      · have := (has.number_mem hc).1
        omega
      · exact hmem'

/-- **Segment**: a consecutively numbered list whose elements are in another one is a contiguous
segment of it. -/
theorem From.infix_of_mem {n m : ℕ} (hsent : From number n sent)
    (h : From number m as) (hmem : ∀ a ∈ as, a ∈ sent) : as <:+: sent := by
  cases as with
  | nil => exact List.nil_infix
  | cons a as =>
    obtain ⟨xs, ys, rfl⟩ := List.append_of_mem (hmem a List.mem_cons_self)
    obtain ⟨hxs, hys⟩ := from_append.mp hsent
    have hm : n + xs.length = m := hys.1.symm.trans h.1
    -- the numbers of the segment are too large for the elements before its head
    have hprefix : a :: as <+: a :: ys := by
      refine hys.prefix_of_mem (hm ▸ h) fun c hc => ?_
      rcases List.mem_append.mp (hmem c hc) with hc' | hc'
      · have := (hxs.number_mem hc').2
        have := (h.number_mem hc).1
        omega
      · exact hc'
    exact hprefix.isInfix.trans (List.suffix_append xs _).isInfix

/-- **The elements from a number on** are numbered consecutively, up to where the list ends. -/
lemma From.exists_filter_le (h : From number n as) (k : ℕ) :
    ∃ m, m + (as.filter fun a => k ≤ number a).length = n + as.length ∧
      From number m (as.filter fun a => k ≤ number a) := by
  induction as generalizing n with
  | nil => exact ⟨n, rfl, trivial⟩
  | cons a as ih =>
    obtain ⟨ha, has⟩ := h
    by_cases hk : k ≤ n
    · have hall : (a :: as).filter (fun a => k ≤ number a) = a :: as := by
        refine List.filter_eq_self.mpr fun b hb => ?_
        have := (from_cons.mpr ⟨ha, has⟩ : From number n (a :: as)).number_mem hb
        simp only [decide_eq_true_eq]
        omega
      rw [hall]
      exact ⟨n, rfl, ha, has⟩
    · obtain ⟨m, hm, hfrom⟩ := ih has
      rw [List.filter_cons_of_neg (by simp only [decide_eq_true_eq]; omega), List.length_cons]
      exact ⟨m, by omega, hfrom⟩

lemma From.of_prefix (hsent : From number n sent) (h : as <+: sent) :
    From number n as := by
  obtain ⟨bs, rfl⟩ := h
  exact (from_append.mp hsent).1

lemma From.of_infix (hsent : From number n sent) (h : as <:+: sent) :
    ∃ m, From number m as := by
  obtain ⟨xs, ys, rfl⟩ := h
  exact ⟨_, (from_append.mp (from_append.mp hsent).1).2⟩

variable {xs ys zs : List α}

/-- No element occurs twice in a consecutively numbered list. -/
theorem From.not_replay {m : ℕ} {a : α} :
    ¬ From number m (xs ++ a :: ys ++ a :: zs) := by
  intro h
  obtain ⟨h, htail⟩ := from_append.mp h
  have hlt := (h.number_mem (show a ∈ xs ++ a :: ys by simp)).2
  have heq : number a = _ := htail.1
  omega

/-- Leaving out inner elements breaks the numbering. -/
theorem From.not_gap {n m : ℕ} (hsent : From number n (xs ++ ys ++ zs))
    (hxs : xs ≠ []) (hys : ys ≠ []) (hzs : zs ≠ []) : ¬ From number m (xs ++ zs) := by
  intro h
  obtain ⟨x, xs, rfl⟩ := List.exists_cons_of_ne_nil hxs
  obtain ⟨z, zs, rfl⟩ := List.exists_cons_of_ne_nil hzs
  obtain ⟨hsent, hsent'⟩ := from_append.mp hsent
  obtain ⟨h, h'⟩ := from_append.mp h
  have hpos : 0 < ys.length := List.length_pos_iff.mpr hys
  have hnm : n = m := ((from_append.mp hsent).1.1).symm.trans h.1
  have hz : n + (x :: xs ++ ys).length = m + (x :: xs).length := hsent'.1.symm.trans h'.1
  rw [List.length_append] at hz
  omega

/-- Exchanging two elements breaks the numbering. -/
theorem From.not_swap {n m : ℕ} {a b : α} (hsent : From number n (xs ++ a :: ys ++ b :: zs)) :
    ¬ From number m (xs ++ b :: ys ++ a :: zs) := by
  intro h
  obtain ⟨hsent, hsent'⟩ := from_append.mp hsent
  obtain ⟨h, h'⟩ := from_append.mp h
  have ha : number a = n + xs.length := (from_append.mp hsent).2.1
  have hb : number b = m + xs.length := (from_append.mp h).2.1
  have hb' : number b = n + (xs ++ a :: ys).length := hsent'.1
  have ha' : number a = m + (xs ++ b :: ys).length := h'.1
  simp only [List.length_append, List.length_cons] at ha' hb'
  omega

end Consecutive
