import Mathlib.Logic.Function.Basic

set_option autoImplicit false

/-!
# Memoised functions

A function that may fail, with a table of the answers that it has given. A failure is not recorded.
The function may change while the table is kept, and the table is right as long as the function has
still the answers that it holds.

## Main definitions

* `MemoTable.ask`.
* `MemoTable.Right`.

## Main results

* `MemoTable.ask_fst`, `MemoTable.Right.ask`.
* `MemoTable.Right.transfer`.
-/

/-- The answers that are recorded. -/
abbrev MemoTable (κ β : Type) := κ → Option β

namespace MemoTable

variable {κ β ε : Type}

/-- One question. -/
def ask [DecidableEq κ] (f : κ → Except ε β) (table : MemoTable κ β) (key : κ) :
    Except ε β × MemoTable κ β :=
  match table key with
  | some answer => (.ok answer, table)
  | none =>
    match f key with
    | .ok answer => (.ok answer, Function.update table key (some answer))
    | .error error => (.error error, table)

/-- **A right table**. -/
def Right (p : κ → Prop) (f : κ → Except ε β) (table : MemoTable κ β) : Prop :=
  ∀ key, p key → ∀ answer, table key = some answer → f key = .ok answer

variable {p p' : κ → Prop} {f f' : κ → Except ε β} {table : MemoTable κ β}

lemma right_empty : Right p f fun _ => none := fun _ _ _ h => nomatch h

/-- **A right table changes no answer.** -/
theorem ask_fst [DecidableEq κ] (h : Right p f table) {key : κ} (hkey : p key) :
    (ask f table key).1 = f key := by
  unfold ask
  cases hans : table key with
  | some answer => exact (h key hkey answer hans).symm
  | none =>
    cases f key <;> rfl

lemma Right.ask [DecidableEq κ] (h : Right p f table) (key : κ) : Right p f (ask f table key).2 := by
  unfold MemoTable.ask
  cases table key with
  | some answer => exact h
  | none =>
    cases hans : f key with
    | error error => exact h
    | ok answer =>
      intro other hother answer' hrecd
      dsimp only at hrecd
      by_cases hsame : other = key
      · subst hsame
        rw [Function.update_self] at hrecd
        rw [hans, Option.some.inj hrecd]
      · rw [Function.update_of_ne hsame] at hrecd
        exact h other hother answer' hrecd

/-- **The function changes**, but not at the keys that are recorded. -/
theorem Right.transfer (h : Right p f table)
    (hsame : ∀ key, table key ≠ none → p' key → p key ∧ f' key = f key) : Right p' f' table := by
  intro key hkey answer hans
  obtain ⟨hold, heq⟩ := hsame key (by rw [hans]; nofun) hkey
  rw [heq]
  exact h key hold answer hans

end MemoTable
