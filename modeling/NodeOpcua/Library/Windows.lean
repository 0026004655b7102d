import Mathlib.Algebra.BigOperators.Group.List.Basic
import Mathlib.Algebra.GroupWithZero.Nat
import Mathlib.Data.List.Count
import Mathlib.Order.Lattice

set_option autoImplicit false

/-!
# Windows over a line

A line is cut into windows. Each window has its start, and an end of its own that need not be the
start of the next one. This file says when a point is in exactly one of the windows. Nothing here
depends on the program under verification.

## Main definitions

* `Windows.Meets`.

## Main results

* `Windows.countP_eq_one_iff`, `Windows.countP_eq_zero_iff`, `Windows.sum_countP`,
  `Windows.sum_eq_countP_iff`.
-/

namespace Windows

open List (forall_mem_cons countP_cons map_cons sum_cons)

variable {α : Type*} [LinearOrder α] (before : α → α → Prop)

/-- **The windows meet** for a point: it is before the end of a window exactly when it is before the
start of the next one, or before `last` for the last window. The windows are given by their starts,
and `before s v` says that `v` is before the end of the window that starts at `s`. -/
def Meets (last v : α) : List α → Prop
  | [] => True
  | s :: starts => (before s v ↔ v < starts.headD last) ∧ Meets last v starts

/-- The point is in the window. -/
def In (v s : α) : Prop := s ≤ v ∧ before s v

instance [DecidableRel before] (v s : α) : Decidable (In before v s) :=
  inferInstanceAs (Decidable (_ ∧ _))

variable {before} {last v : α} {starts : List α}

lemma meets_of_lt (h : ∀ s ∈ starts, v < s) (hlast : v < last) :
    Meets before last v starts ↔ ∀ s ∈ starts, before s v := by
  induction starts with
  | nil => simp [Meets]
  | cons s starts ih =>
    rw [forall_mem_cons] at h
    have hnext : v < starts.headD last := by
      cases starts with
      | nil => exact hlast
      | cons s' starts => exact h.2 s' List.mem_cons_self
    rw [Meets, ih h.2, forall_mem_cons, iff_true_right hnext]

variable [DecidableRel before]

lemma countP_eq_zero_of_lt (h : ∀ s ∈ starts, v < s) :
    starts.countP (fun s => In before v s) = 0 := by
  rw [List.countP_eq_zero]
  intro s hs
  simpa using fun hin : In before v s => (h s hs).not_ge hin.1

/-- **Exactly one window**: a point of the line is in exactly one window when they meet for it.

**Proof sketch.** Induction on the windows. If the next one starts after the point, so do all the
others, and the point has to be in the first one; otherwise it must not be. -/
theorem countP_eq_one_iff {s : α}
    (hsorted : (s :: starts).Pairwise fun s s' => s ≤ s' ∧ (before s v → before s' v))
    (hfirst : s ≤ v) (hlast : v < last) :
    (s :: starts).countP (fun s => In before v s) = 1 ↔ Meets before last v (s :: starts) := by
  induction starts generalizing s with
  | nil =>
    rw [List.countP_singleton, Meets, Meets]
    simp [In, hfirst, hlast]
  | cons s' starts ih =>
    rw [List.pairwise_cons] at hsorted
    obtain ⟨hs, hsorted⟩ := hsorted
    rw [countP_cons, Meets, List.headD_cons]
    rcases lt_or_ge v s' with hv | hv
    · have hafter : ∀ t ∈ s' :: starts, v < t := by
        rw [forall_mem_cons]
        exact ⟨hv, fun t ht => lt_of_lt_of_le hv ((List.pairwise_cons.mp hsorted).1 t ht).1⟩
      rw [countP_eq_zero_of_lt hafter, meets_of_lt hafter hlast, iff_true_right hv]
      by_cases hbefore : before s v
      · simp only [In, hfirst, hbefore, true_and, decide_true, if_true, Nat.zero_add, true_iff]
        exact fun t ht => (hs t ht).2 hbefore
      · simp [In, hbefore]
    · have hrest := ih hsorted hv
      have hnot : ¬ v < s' := not_lt.mpr hv
      rw [iff_false_right hnot]
      by_cases hbefore : before s v
      · have hin : In before v s' := ⟨hv, (hs s' List.mem_cons_self).2 hbefore⟩
        simp [In, hfirst, hbefore, hin.1, hin.2]
      · have hout : ¬ In before v s := fun h => hbefore h.2
        rw [decide_eq_false hout, if_neg Bool.false_ne_true, Nat.add_zero, hrest]
        simp [hbefore]

/-- **No window**: a point after the last window is in no window when they meet for it. -/
theorem countP_eq_zero_iff (hstarts : ∀ s ∈ starts, s ≤ v) (hlast : last ≤ v) :
    starts.countP (fun s => In before v s) = 0 ↔ Meets before last v starts := by
  induction starts with
  | nil => simp [Meets]
  | cons s starts ih =>
    rw [forall_mem_cons] at hstarts
    have hnext : ¬ v < starts.headD last := by
      rw [not_lt]
      cases starts with
      | nil => exact hlast
      | cons s' starts => exact hstarts.2 s' List.mem_cons_self
    rw [countP_cons, Meets, ← ih hstarts.2, iff_false_right hnext]
    simp [In, hstarts.1, and_comm]

/-! ### Counting the points of all windows -/

/-- **Counting twice**: the points of each window, and the windows of each point. -/
theorem sum_countP {π : Type*} (time : π → α) (starts : List α) (points : List π) :
    (starts.map fun s => points.countP fun p => In before (time p) s).sum =
      (points.map fun p => starts.countP fun s => In before (time p) s).sum := by
  induction starts with
  | nil => simp
  | cons s starts ih =>
    have hpoints : ∀ points : List π,
        (points.map fun p => (s :: starts).countP fun s => In before (time p) s).sum =
          points.countP (fun p => In before (time p) s) +
            (points.map fun p => starts.countP fun s => In before (time p) s).sum := by
      intro points
      induction points with
      | nil => rfl
      | cons p points ihp =>
        rw [map_cons, sum_cons, ihp, countP_cons, countP_cons, map_cons,
          sum_cons]
        omega
    rw [map_cons, sum_cons, ih, hpoints]

omit [LinearOrder α] in
/-- **Points that count once** are all that is counted when the others do not count. -/
theorem sum_eq_countP_iff {π : Type*} {f : π → ℕ} {P : π → Prop} [DecidablePred P]
    {points : List π} (h : ∀ p ∈ points, P p → f p = 1) :
    (points.map f).sum = points.countP (fun p => P p) ↔ ∀ p ∈ points, ¬ P p → f p = 0 := by
  have hle : ∀ {points : List π}, (∀ p ∈ points, P p → f p = 1) →
      points.countP (fun p => P p) ≤ (points.map f).sum := by
    intro points h
    induction points with
    | nil => exact Nat.le_refl 0
    | cons p points ih =>
      rw [forall_mem_cons] at h
      have := ih h.2
      rw [countP_cons, map_cons, sum_cons]
      by_cases hp : P p
      · rw [if_pos (by simpa using hp), h.1 hp]
        omega
      · rw [if_neg (by simpa using hp)]
        omega
  induction points with
  | nil => simp
  | cons p points ih =>
    rw [forall_mem_cons] at h
    have hrest := ih h.2
    have := hle h.2
    rw [countP_cons, map_cons, sum_cons, forall_mem_cons]
    by_cases hp : P p
    · rw [if_pos (by simpa using hp), h.1 hp]
      refine ⟨fun heq => ⟨fun hn => absurd hp hn, hrest.mp (by omega)⟩, fun hall => ?_⟩
      have := hrest.mpr hall.2
      omega
    · rw [if_neg (by simpa using hp)]
      refine ⟨fun heq => ⟨fun _ => by omega, hrest.mp (by omega)⟩, fun hall => ?_⟩
      have := hrest.mpr hall.2
      have := hall.1 hp
      omega

end Windows
