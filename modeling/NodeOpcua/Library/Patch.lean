import Mathlib.Data.List.Basic
import Mathlib.Tactic.Common

set_option autoImplicit false

/-!
# Writing into a buffer in place

A buffer of fixed length as a list, and the copy of some elements into it at a position. The
lemmas are stated for a buffer given as a concatenation, which is how a buffer filled from left to
right is known. Nothing here depends on the program under verification.

## Main definitions

* `Patch.copy`.
-/

namespace Patch

variable {α : Type*}

/-- The buffer after `source` is copied into it at `start`; elements beyond the end of the buffer
are dropped. -/
def copy (target source : List α) (start : ℕ) : List α :=
  target.take start ++ source.take (target.length - start) ++ target.drop (start + source.length)

@[simp] lemma length_copy (target source : List α) (start : ℕ) :
    (copy target source start).length = target.length := by
  simp only [copy, List.length_append, List.length_take, List.length_drop]
  omega

/-- Copying right after the beginning `pre` of a buffer keeps it and replaces what follows. -/
lemma copy_append {pre post source : List α} {start : ℕ} (hstart : start = pre.length)
    (hfit : source.length ≤ post.length) :
    copy (pre ++ post) source start = pre ++ (source ++ post.drop source.length) := by
  subst hstart
  unfold copy
  rw [List.take_left', List.append_assoc, List.take_of_length_le, List.drop_append,
    List.drop_of_length_le (by omega), List.nil_append, Nat.add_sub_cancel_left]
  · rw [List.length_append]; omega
  · rfl

lemma copy_replace {pre old post source : List α} {start : ℕ} (hstart : start = pre.length)
    (hlen : source.length = old.length) :
    copy (pre ++ (old ++ post)) source start = pre ++ (source ++ post) := by
  rw [copy_append hstart (by rw [List.length_append]; omega), hlen, List.drop_left']
  rfl

end Patch
