import Mathlib.Data.List.Basic

set_option autoImplicit false

/-!
# Observational equivalence

Two states of a component cannot be told apart when they look alike now and after any further
inputs. This file has the rule that proves it by a relation between the states. Nothing here depends
on the program under verification.

## Main definitions

* `Bisimulation.run`.
* `Bisimulation.Equivalent`.
-/

namespace Bisimulation

variable {σ α ω : Type*} (step : σ → α → σ) (observe : σ → ω)

/-- The state after a list of inputs. -/
def run (s : σ) (as : List α) : σ := as.foldl step s

@[simp] lemma run_nil (s : σ) : run step s [] = s := rfl

@[simp] lemma run_cons (s : σ) (a : α) (as : List α) :
    run step s (a :: as) = run step (step s a) as := rfl

lemma run_append (s : σ) (as bs : List α) :
    run step s (as ++ bs) = run step (run step s as) bs := List.foldl_append

/-- **Two states cannot be told apart**: they look alike, now and after any inputs. -/
def Equivalent (s s' : σ) : Prop :=
  ∀ as : List α, observe (run step s as) = observe (run step s' as)

variable {step observe}

lemma run_invariant {I : σ → Prop} (hstep : ∀ s a, I s → I (step s a)) {s : σ} (hs : I s)
    (as : List α) : I (run step s as) := by
  induction as generalizing s with
  | nil => exact hs
  | cons a as ih => exact ih (hstep s a hs)

/-- **Bisimulation**: states are equivalent when they are related by a relation that the inputs keep
and under which states look alike. -/
theorem equivalent_of_bisimulation {R : σ → σ → Prop}
    (hstep : ∀ s s' a, R s s' → R (step s a) (step s' a))
    (hobserve : ∀ s s', R s s' → observe s = observe s') {s s' : σ} (h : R s s') :
    Equivalent step observe s s' := by
  intro as
  induction as generalizing s s' with
  | nil => exact hobserve s s' h
  | cons a as ih => exact ih (hstep s s' a h)

/-- **Equivalent states stay equivalent**. -/
theorem Equivalent.run {s s' : σ} (h : Equivalent step observe s s') (as : List α) :
    Equivalent step observe (run step s as) (run step s' as) := by
  intro bs
  rw [← run_append, ← run_append]
  exact h (as ++ bs)

end Bisimulation
