import Mathlib.Tactic.Lemma

set_option autoImplicit false

/-!
# Programs that throw and keep the state

A program in `EStateM` that throws leaves the state as it was when it threw. These are the rules by
which such a program is run, step by step, when it does not throw.

## Main definitions

* `Throwing.check`.
-/

namespace Throwing

variable {ε σ α β : Type}

/-- **An assertion**, which throws when the condition does not hold. -/
def check (failure : ε) (condition : Prop) [Decidable condition] : EStateM ε σ PUnit :=
  if condition then pure ⟨⟩ else throw failure

lemma bind_ok {x : EStateM ε σ α} (f : α → EStateM ε σ β) {s s' : σ} {a : α} (h : x s = .ok a s') :
    (x >>= f) s = f a s' := by
  change EStateM.bind x f s = f a s'
  unfold EStateM.bind
  rw [h]

lemma bind_error {x : EStateM ε σ α} (f : α → EStateM ε σ β) {s s' : σ} {e : ε}
    (h : x s = .error e s') : (x >>= f) s = .error e s' := by
  change EStateM.bind x f s = .error e s'
  unfold EStateM.bind
  rw [h]

lemma get_bind (f : σ → EStateM ε σ β) (s : σ) : (get >>= f) s = f s s := rfl

lemma modify_bind (g : σ → σ) (f : PUnit → EStateM ε σ β) (s : σ) :
    (modify g >>= f) s = f ⟨⟩ (g s) := rfl

lemma modify_ok (g : σ → σ) (s : σ) :
    (modify g : EStateM ε σ PUnit) s = .ok ⟨⟩ (g s) := rfl

lemma pure_ok (a : α) (s : σ) : (pure a : EStateM ε σ α) s = .ok a s := rfl

lemma check_ok (failure : ε) {condition : Prop} [Decidable condition] (h : condition) (s : σ) :
    (check failure condition : EStateM ε σ PUnit) s = .ok ⟨⟩ s := by
  unfold check
  rw [if_pos h]
  rfl

lemma check_bind (failure : ε) {condition : Prop} [Decidable condition] (h : condition)
    (f : PUnit → EStateM ε σ β) (s : σ) : (check failure condition >>= f) s = f ⟨⟩ s :=
  bind_ok f (check_ok failure h s)

/-- **The rule for loops**: what each round keeps holds at the end, of no elements. -/
theorem forM_ok {f : α → EStateM ε σ PUnit} (I : List α → σ → Prop)
    (hstep : ∀ a rest s, I (a :: rest) s → ∃ s', f a s = .ok ⟨⟩ s' ∧ I rest s')
    (as : List α) {s : σ} (hs : I as s) : ∃ s', as.forM f s = .ok ⟨⟩ s' ∧ I [] s' := by
  induction as generalizing s with
  | nil => exact ⟨s, rfl, hs⟩
  | cons a as ih =>
    obtain ⟨s₁, hfirst, hs₁⟩ := hstep a as s hs
    obtain ⟨s₂, hrest, hs₂⟩ := ih hs₁
    refine ⟨s₂, ?_, hs₂⟩
    change (f a >>= fun _ => as.forM f) s = .ok ⟨⟩ s₂
    rw [bind_ok _ hfirst]
    exact hrest

end Throwing
