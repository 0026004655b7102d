import Mathlib.Data.List.Basic

set_option autoImplicit false

/-!
# The leftmost match

An expression is a function that matches at the beginning of a text. When it is not anchored, it is
tried at one position after the other, up to and including the end.

## Main definitions

* `LeftmostMatch.exec`.

## Main results

* `LeftmostMatch.exec_eq_none_iff`, `LeftmostMatch.exists_of_exec`, `LeftmostMatch.exec_append`.
-/

namespace LeftmostMatch

variable {α β : Type}

/-- **The leftmost match** of an expression that is not anchored. -/
def exec (matchAt : List α → Option β) : List α → Option β
  | [] => matchAt []
  | c :: cs =>
    match matchAt (c :: cs) with
    | some m => some m
    | none => exec matchAt cs

variable {m : List α → Option β}

/-- **A match of an expression** is a match at some position. -/
lemma exec_eq_none_iff (cs : List α) :
    exec m cs = none ↔ ∀ before after, cs = before ++ after → m after = none := by
  induction cs with
  | nil =>
    constructor
    · intro h before after heq
      rw [(List.append_eq_nil_iff.mp heq.symm).2]
      exact h
    · intro h
      exact h [] [] rfl
  | cons c cs ih =>
    constructor
    · intro h before after heq
      rw [exec] at h
      cases hm : m (c :: cs) with
      | some r => rw [hm] at h; cases h
      | none =>
        rw [hm] at h
        cases before with
        | nil =>
          rw [List.nil_append] at heq
          rw [← heq]
          exact hm
        | cons b before =>
          obtain ⟨-, hrest⟩ := List.cons.inj heq
          exact ih.mp h before after hrest
    · intro h
      rw [exec, h [] (c :: cs) rfl]
      exact ih.mpr fun before after heq => h (c :: before) after (by rw [heq]; rfl)

variable {cs : List α}

lemma exists_of_exec {r : β} (h : exec m cs = some r) :
    ∃ before after, cs = before ++ after ∧ m after = some r := by
  induction cs with
  | nil => exact ⟨[], [], rfl, h⟩
  | cons c cs ih =>
    rw [exec] at h
    cases hm : m (c :: cs) with
    | some r' =>
      rw [hm] at h
      exact ⟨[], c :: cs, rfl, hm.trans h⟩
    | none =>
      rw [hm] at h
      obtain ⟨before, after, rfl, hafter⟩ := ih h
      exact ⟨c :: before, after, rfl, hafter⟩

lemma exec_of_match {r : β} (h : m cs = some r) : exec m cs = some r := by
  cases cs with
  | nil => exact h
  | cons c cs => rw [exec, h]

lemma exec_append {before : List α}
    (h : ∀ c rest, c ∈ before → m (c :: rest) = none) : exec m (before ++ cs) = exec m cs := by
  induction before with
  | nil => rfl
  | cons c before ih =>
    rw [List.cons_append, exec, h c _ (by simp)]
    exact ih fun d rest hd => h d rest (by simp [hd])

end LeftmostMatch
