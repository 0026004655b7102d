import Mathlib.Data.List.Basic
import Mathlib.Data.List.Infix
import Mathlib.Tactic.Common

set_option autoImplicit false

/-!
# Conservation in a queue

What goes through a queue that is first in, first out: the elements that were there, followed by
those that were added, are the elements that were taken, followed by those that are still there.
Nothing here depends on the program under verification.

## Main definitions

* `Fifo.Conserves`.
-/

namespace Fifo

variable {α : Type*}

/-- **Conservation**: the elements of `queue` and then `added` are `taken` and then `queue'`. -/
def Conserves (queue added taken queue' : List α) : Prop := queue ++ added = taken ++ queue'

lemma Conserves.refl (queue : List α) : Conserves queue [] [] queue := List.append_nil queue

/-- **Conservation over a run** of two parts. -/
lemma Conserves.trans {q₁ q₂ q₃ a₁ a₂ t₁ t₂ : List α} (h₁ : Conserves q₁ a₁ t₁ q₂)
    (h₂ : Conserves q₂ a₂ t₂ q₃) : Conserves q₁ (a₁ ++ a₂) (t₁ ++ t₂) q₃ := by
  unfold Conserves at *
  rw [← List.append_assoc, h₁, List.append_assoc, h₂, List.append_assoc]

/-- **What was there at first** is taken first. -/
lemma Conserves.exists_taken {queue added taken queue' : List α}
    (h : Conserves queue added taken queue') (hle : queue.length ≤ taken.length) :
    ∃ rest, taken = queue ++ rest := by
  have hprefix : queue <+: taken :=
    List.prefix_of_prefix_length_le (List.prefix_append queue added)
      (h ▸ List.prefix_append taken queue') hle
  obtain ⟨rest, hrest⟩ := hprefix
  exact ⟨rest, hrest.symm⟩

end Fifo
