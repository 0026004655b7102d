import Mathlib.Data.Finset.Basic

set_option autoImplicit false

/-!
# Search with a memory of failures

A backtracking search that records the questions it has answered with no, so that it does not
answer them twice. The record is sound when what it holds is no indeed, and a search that starts
from a sound record answers as one without a record would.

## Main definitions

* `Memo.Sound`, `Memo.Decides`.
* `Memo.attempt`.
-/

namespace Memo

variable {κ : Type} [DecidableEq κ] {P : κ → Prop} {Q R : Prop}

/-- A search: an answer, and the record afterwards. -/
abbrev Search (κ : Type) := Finset κ → Bool × Finset κ

/-- **A sound record** holds only questions whose answer is no. -/
def Sound (P : κ → Prop) (failed : Finset κ) : Prop := ∀ k ∈ failed, ¬ P k

/-- **The search decides the question**, from any sound record, and leaves a sound one. -/
def Decides (P : κ → Prop) (Q : Prop) (run : Search κ) : Prop :=
  ∀ failed, Sound P failed → ((run failed).1 = true ↔ Q) ∧ Sound P (run failed).2

/-- One question: what is recorded is not tried again, and a failure is recorded. -/
def attempt (key : κ) (run : Search κ) : Search κ := fun failed =>
  if key ∈ failed then (false, failed)
  else
    match run failed with
    | (true, failed) => (true, failed)
    | (false, failed) => (false, insert key failed)

/-- The second question is only asked when the answer to the first one is no. -/
def orElse (first second : Search κ) : Search κ := fun failed =>
  match first failed with
  | (true, failed) => (true, failed)
  | (false, failed) => second failed

omit [DecidableEq κ] in
lemma sound_empty : Sound P ∅ := by
  intro k hk
  simp at hk

lemma Sound.insert {failed : Finset κ} (h : Sound P failed) {key : κ} (hkey : ¬ P key) :
    Sound P (insert key failed) := by
  intro k hk
  rcases Finset.mem_insert.mp hk with rfl | hk
  · exact hkey
  · exact h k hk

omit [DecidableEq κ] in
lemma Decides.pure {b : Bool} (h : b = true ↔ Q) : Decides P Q fun failed => (b, failed) :=
  fun _ hsound => ⟨h, hsound⟩

omit [DecidableEq κ] in
lemma Decides.congr {run : Search κ} (h : Decides P Q run) (hiff : Q ↔ R) : Decides P R run :=
  fun failed hsound => ⟨(h failed hsound).1.trans hiff, (h failed hsound).2⟩

/-- **Looking up and recording** changes no answer. -/
theorem decides_attempt {key : κ} {run : Search κ} (h : Decides P (P key) run) :
    Decides P (P key) (attempt key run) := by
  intro failed hsound
  unfold attempt
  by_cases hmem : key ∈ failed
  · rw [if_pos hmem]
    exact ⟨iff_of_false Bool.false_ne_true (hsound key hmem), hsound⟩
  · rw [if_neg hmem]
    obtain ⟨hans, hsound'⟩ := h failed hsound
    rcases hrun : run failed with ⟨answer, failed'⟩
    rw [hrun] at hans hsound'
    cases answer with
    | true => exact ⟨hans, hsound'⟩
    | false =>
      have hkey : ¬ P key := fun hP => Bool.false_ne_true (hans.mpr hP)
      exact ⟨hans, hsound'.insert hkey⟩

omit [DecidableEq κ] in
/-- **One question after the other**. -/
theorem Decides.or {first second : Search κ} (h : Decides P Q first) (h' : Decides P R second) :
    Decides P (Q ∨ R) (orElse first second) := by
  intro failed hsound
  unfold orElse
  obtain ⟨hans, hsound'⟩ := h failed hsound
  rcases hrun : first failed with ⟨answer, failed'⟩
  rw [hrun] at hans hsound'
  cases answer with
  | true => exact ⟨iff_of_true rfl (Or.inl (hans.mp rfl)), hsound'⟩
  | false =>
    have hQ : ¬ Q := fun hQ => Bool.false_ne_true (hans.mpr hQ)
    obtain ⟨hans', hsound''⟩ := h' failed' hsound'
    exact ⟨hans'.trans (or_iff_right hQ).symm, hsound''⟩

end Memo
