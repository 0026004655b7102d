import Mathlib.Data.List.Basic

set_option autoImplicit false

/-!
# Reading a list block by block

A long list is handed out in blocks: each request takes the next few elements, until nothing is
left. This file has the reading of a list as a value that carries its own account. Nothing here
depends on the program under verification.

## Main definitions

* `Paging.Reading`.
* `Paging.Reading.start`, `Paging.Reading.next`.
-/

namespace Paging

variable {α : Type*} {original : List α}

/-- A reading of a list in progress: the blocks handed out, each with the number of elements that
was asked for, and the elements that are left. -/
structure Reading (original : List α) where
  blocks : List (ℕ × List α)
  rest : List α
  complete : (blocks.map Prod.snd).flatten ++ rest = original
  bounded : ∀ b ∈ blocks, b.2.length ≤ b.1

namespace Reading

/-- Nothing has been handed out. -/
def start (original : List α) : Reading original where
  blocks := []
  rest := original
  complete := rfl
  bounded := fun _ h => absurd h List.not_mem_nil

/-- The next `n` elements are handed out. -/
def next (r : Reading original) (n : ℕ) : Reading original where
  blocks := r.blocks ++ [(n, r.rest.take n)]
  rest := r.rest.drop n
  complete := by
    rw [List.map_append, List.flatten_append, List.append_assoc]
    simpa using r.complete
  bounded := by
    intro b hb
    rcases List.mem_append.mp hb with hb | hb
    · exact r.bounded b hb
    · rw [List.mem_singleton.mp hb]
      exact List.length_take_le n r.rest

variable (r : Reading original)

@[simp] lemma next_blocks (n : ℕ) :
    (r.next n).blocks = r.blocks ++ [(n, r.rest.take n)] := rfl

@[simp] lemma next_rest (n : ℕ) : (r.next n).rest = r.rest.drop n := rfl

/-- **The blocks handed out are a prefix of the list**, in order and without repetition. -/
theorem isPrefix : (r.blocks.map Prod.snd).flatten <+: original :=
  ⟨r.rest, r.complete⟩

/-- **The blocks are the whole list** exactly when nothing is left. -/
theorem flatten_eq_iff :
    (r.blocks.map Prod.snd).flatten = original ↔ r.rest = [] := by
  have h := r.complete
  constructor
  · intro heq
    rw [heq] at h
    simpa using h
  · intro hrest
    rwa [hrest, List.append_nil] at h

end Reading

end Paging
