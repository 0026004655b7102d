import Mathlib.Tactic.Common

set_option autoImplicit false

/-!
# Computations that may throw

How a sequence of computations that may throw ends without an exception. Nothing here depends on
the program under verification.

## Main definitions

* `Except.Succeeds`, `Except.check`.

## Main results

* `Except.bind_eq_ok_iff`, `Except.exists_mapM_eq_ok_iff`.
* `Except.succeeds_bind`.
-/

namespace Except

variable {ε : Type*} {α β : Type} {x : Except ε α} {f : α → Except ε β}

/-- **Sequencing**: a sequence gives a value exactly when both of its parts do. -/
theorem bind_eq_ok_iff {b : β} :
    x >>= f = .ok b ↔ ∃ a, x = .ok a ∧ f a = .ok b := by
  cases x with
  | error e =>
    constructor
    · intro h
      cases h
    · rintro ⟨a, h, -⟩
      cases h
  | ok a =>
    constructor
    · intro h
      exact ⟨a, rfl, h⟩
    · rintro ⟨a', h, h'⟩
      cases h
      exact h'

/-- **Sequencing** with a function of the value. -/
lemma bind_pure_eq_ok_iff {f : α → β} {b : β} :
    (x >>= fun a => pure (f a)) = .ok b ↔ ∃ a, x = .ok a ∧ b = f a := by
  rw [bind_eq_ok_iff]
  constructor
  · rintro ⟨a, ha, hb⟩
    cases hb
    exact ⟨a, ha, rfl⟩
  · rintro ⟨a, ha, rfl⟩
    exact ⟨a, ha, rfl⟩

lemma exists_bind_eq_ok_iff :
    (∃ b, x >>= f = .ok b) ↔ ∃ a, x = .ok a ∧ ∃ b, f a = .ok b := by
  constructor
  · rintro ⟨b, h⟩
    obtain ⟨a, ha, hb⟩ := bind_eq_ok_iff.mp h
    exact ⟨a, ha, b, hb⟩
  · rintro ⟨a, ha, b, hb⟩
    exact ⟨b, bind_eq_ok_iff.mpr ⟨a, ha, hb⟩⟩

lemma exists_bind_pure_eq_ok_iff {f : α → β} :
    (∃ b, (x >>= fun a => pure (f a)) = .ok b) ↔ ∃ a, x = .ok a := by
  rw [exists_bind_eq_ok_iff]
  exact exists_congr fun a => and_iff_left ⟨_, rfl⟩

lemma mem_of_mapM_eq_ok {as : List α} {bs : List β}
    (h : as.mapM f = .ok bs) (b : β) : b ∈ bs ↔ ∃ a ∈ as, f a = .ok b := by
  induction as generalizing bs with
  | nil =>
    cases h
    simp
  | cons a as ih =>
    rw [List.mapM_cons] at h
    obtain ⟨b', hb', hrest⟩ := bind_eq_ok_iff.mp h
    obtain ⟨bs', hbs', hpure⟩ := bind_eq_ok_iff.mp hrest
    cases hpure
    rw [List.mem_cons, ih hbs']
    simp only [List.mem_cons, exists_eq_or_imp, hb', Except.ok.injEq]
    rw [eq_comm]

/-- **A list is mapped** when each of its elements is. -/
theorem exists_mapM_eq_ok_iff {as : List α} :
    (∃ bs, as.mapM f = .ok bs) ↔ ∀ a ∈ as, ∃ b, f a = .ok b := by
  induction as with
  | nil => exact iff_of_true ⟨[], rfl⟩ (by simp)
  | cons a as ih =>
    rw [List.mapM_cons, exists_bind_eq_ok_iff, List.forall_mem_cons, ← ih]
    constructor
    · rintro ⟨b, hb, hrest⟩
      exact ⟨⟨b, hb⟩, exists_bind_pure_eq_ok_iff.mp hrest⟩
    · rintro ⟨⟨b, hb⟩, hrest⟩
      exact ⟨b, hb, exists_bind_pure_eq_ok_iff.mpr hrest⟩

lemma exists_map_eq_ok_iff {f : α → β} :
    (∃ b, x.map f = .ok b) ↔ ∃ a, x = .ok a := by
  cases x with
  | error e => exact iff_of_false nofun nofun
  | ok a => exact iff_of_true ⟨_, rfl⟩ ⟨_, rfl⟩

lemma map_eq_ok_iff {f : α → β} {b : β} :
    x.map f = .ok b ↔ ∃ a, x = .ok a ∧ f a = b := by
  cases x <;> simp [Except.map]

/-! ### Computations that succeed -/

/-- The computation gives a value that meets the condition. -/
def Succeeds (x : Except ε α) (P : α → Prop) : Prop := ∃ a, x = .ok a ∧ P a

lemma Succeeds.mono {P Q : α → Prop} (h : Succeeds x P) (hPQ : ∀ a, P a → Q a) :
    Succeeds x Q := by
  obtain ⟨a, hx, hP⟩ := h
  exact ⟨a, hx, hPQ a hP⟩

/-- **Sequencing**: what the first part establishes is what the second one may use. -/
theorem succeeds_bind {P : α → Prop} {Q : β → Prop}
    (h : Succeeds x P) (hf : ∀ a, P a → Succeeds (f a) Q) : Succeeds (x >>= f) Q := by
  obtain ⟨a, rfl, hP⟩ := h
  exact hf a hP

/-- An assertion: when it fails, the computation stops in the state it was made in. -/
def check {σ : Type} (p : Bool) (s : σ) : Except σ σ := if p then .ok s else .error s

lemma check_of_true {σ : Type} {p : Bool} (h : p = true) (s : σ) : check p s = .ok s := if_pos h

/-- The state in which a computation over a state ends, also when an assertion fails. -/
def final {σ : Type} : Except σ σ → σ
  | .ok s => s
  | .error s => s

end Except
