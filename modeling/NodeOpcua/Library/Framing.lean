import Mathlib.Data.List.Basic
import Mathlib.Tactic.Common

set_option autoImplicit false

/-!
# Length-prefixed frames

A frame is a list whose first `min` elements determine its length. This file has the fact that a
stream is a concatenation of frames in at most one way. Nothing here depends on the program under
verification.

## Main definitions

* `Framing.IsFrame`, `Framing.Malformed`.
* `Framing.Incomplete`.

## Design

`size` reads a list that may be longer than the header; the assumption `hsize` says that it looks
at the first `min` elements only.
-/

namespace Framing

variable {α : Type*} (min : ℕ) (size : List α → Option ℕ)

/-- The list is a frame: it has a complete header, which gives its length. -/
def IsFrame (p : List α) : Prop := min ≤ p.length ∧ size p = some p.length

/-- The list has a complete header that gives no length. -/
def Malformed (b : List α) : Prop := min ≤ b.length ∧ size b = none

/-- The list is too short for a header, or shorter than its header says. -/
def Incomplete (b : List α) : Prop :=
  b.length < min ∨ min ≤ b.length ∧ ∃ n, size b = some n ∧ b.length < n

variable {min size} (hsize : ∀ b c, min ≤ b.length → size (b ++ c) = size b)

include hsize

/-- **Frames are prefix-free**: two frames at the start of one stream are the same frame. -/
theorem IsFrame.unique {p q x y : List α} (hp : IsFrame min size p) (hq : IsFrame min size q)
    (h : p ++ x = q ++ y) : p = q ∧ x = y := by
  have hlen : some p.length = some q.length := by
    rw [← hp.2, ← hsize p x hp.1, h, hsize q y hq.1, hq.2]
  exact List.append_inj h (Option.some.inj hlen)

lemma IsFrame.not_malformed {p q x y : List α} (hp : IsFrame min size p)
    (hq : Malformed min size q) (h : p ++ x = q ++ y) : False := by
  have : some p.length = none := by
    rw [← hp.2, ← hsize p x hp.1, h, hsize q y hq.1, hq.2]
  exact Option.some_ne_none _ this

lemma IsFrame.not_incomplete {p q x : List α} (hp : IsFrame min size p)
    (hq : Incomplete min size q) (h : p ++ x = q) : False := by
  subst h
  rcases hq with hq | ⟨_, n, hn, hlt⟩
  · have := hp.1
    rw [List.length_append] at hq
    omega
  · rw [hsize p x hp.1, hp.2, Option.some_inj] at hn
    rw [List.length_append] at hlt
    omega

variable (hmin : 0 < min)

include hmin

omit hsize in
lemma IsFrame.ne_nil {p : List α} (hp : IsFrame min size p) : p ≠ [] := by
  rintro rfl
  exact absurd hp.1 (Nat.not_le.mpr hmin)

variable {done packets : List (List α)}

section

variable (hdone : ∀ p ∈ done, IsFrame min size p) (hpack : ∀ p ∈ packets, IsFrame min size p)
include hdone hpack

/-- **Reading a stream of frames**: frames cut off the start of a stream of frames are the first
frames of that stream, and what is left is the stream of the other ones.

**Proof sketch.** Induction on the frames cut off, each identified by `IsFrame.unique`. -/
theorem frames_append {rest : List α}
    (h : done.flatten ++ rest = packets.flatten) :
    ∃ todo, packets = done ++ todo ∧ rest = todo.flatten := by
  induction done generalizing packets with
  | nil => exact ⟨packets, rfl, h⟩
  | cons p done ih =>
    have hp := hdone p List.mem_cons_self
    rw [List.flatten_cons, List.append_assoc] at h
    cases packets with
    | nil => exact absurd (List.append_eq_nil_iff.mp h).1 (hp.ne_nil hmin)
    | cons q packets =>
      obtain ⟨rfl, hrest⟩ := hp.unique hsize (hpack q List.mem_cons_self) h
      obtain ⟨todo, rfl, rfl⟩ := ih (fun r hr => hdone r (List.mem_cons_of_mem _ hr))
        (fun r hr => hpack r (List.mem_cons_of_mem _ hr)) hrest
      exact ⟨todo, rfl, rfl⟩

lemma frames_not_malformed {bad rest : List α}
    (hbad : Malformed min size bad) : done.flatten ++ (bad ++ rest) ≠ packets.flatten := by
  intro h
  obtain ⟨todo, rfl, hrest⟩ := frames_append hsize hmin hdone hpack h
  cases todo with
  | nil =>
    have hnil : bad = [] := (List.append_eq_nil_iff.mp hrest).1
    exact absurd hbad.1 (by rw [hnil]; exact Nat.not_le.mpr hmin)
  | cons q todo =>
    exact (hpack q (by simp)).not_malformed hsize hbad hrest.symm

lemma frames_eq {rest : List α}
    (hrest : Incomplete min size rest) (h : done.flatten ++ rest = packets.flatten) :
    done = packets ∧ rest = [] := by
  obtain ⟨todo, rfl, hflat⟩ := frames_append hsize hmin hdone hpack h
  cases todo with
  | nil => exact ⟨(List.append_nil _).symm, hflat⟩
  | cons q todo =>
    exact ((hpack q (by simp)).not_incomplete hsize hrest hflat.symm).elim

end

end Framing
