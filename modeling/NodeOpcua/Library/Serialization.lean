import Mathlib.Data.List.Perm.Basic

set_option autoImplicit false

/-!
# Serial histories

Operations that overlap in time are serializable when their results, and the state they leave, are
those of the same operations one after the other. This file builds such a serial history while the
operations complete: one that takes effect when it completes goes to the end; one that only read
goes back to the place where it read. Nothing here depends on the program under verification.

## Main definitions

* `Serialization.Serial`, `Serialization.Visits`, `Serialization.Since`, `Serialization.Barred`.

## Main results

* `Serialization.Serial.append`, `Serialization.Serial.insert`.
* `Serialization.since_append_singleton`.
-/

namespace Serialization

variable {σ ω ρ β : Type*} (apply : ω → σ → ρ × σ)

/-- The operations, one after the other from `s`, give their results and leave the state. -/
inductive Serial : σ → List (ω × ρ) → σ → Prop
  | nil (s : σ) : Serial s [] s
  | cons {s s' s'' : σ} {op : ω} {r : ρ} {history : List (ω × ρ)} (h : apply op s = (r, s'))
      (hrest : Serial s' history s'') : Serial s ((op, r) :: history) s''

/-- The serial history from `s` passes through the state `t`. -/
def Visits (s : σ) (history : List (ω × ρ)) (t : σ) : Prop :=
  ∃ before after, history = before ++ after ∧ Serial apply s before t

variable {apply} {s t u : σ} {history history' : List (ω × ρ)} {op : ω} {r : ρ}

lemma Serial.trans (h : Serial apply s history t) (h' : Serial apply t history' u) :
    Serial apply s (history ++ history') u := by
  induction h with
  | nil => exact h'
  | cons hop _ ih => exact .cons hop (ih h')

lemma Serial.unique (h : Serial apply s history t) (h' : Serial apply s history u) : t = u := by
  induction h with
  | nil =>
    cases h'
    rfl
  | cons hop _ ih =>
    cases h' with
    | cons hop' hrest' =>
      obtain ⟨-, rfl⟩ := Prod.mk.inj (hop.symm.trans hop')
      exact ih hrest'

lemma Serial.split {before after : List (ω × ρ)} (h : Serial apply s (before ++ after) t) :
    ∃ u, Serial apply s before u ∧ Serial apply u after t := by
  induction before generalizing s with
  | nil => exact ⟨s, .nil s, h⟩
  | cons e before ih =>
    cases h with
    | cons hop hrest =>
      obtain ⟨u, hbefore, hafter⟩ := ih hrest
      exact ⟨u, .cons hop hbefore, hafter⟩

lemma Serial.visits (h : Serial apply s history t) : Visits apply s history t :=
  ⟨history, [], (List.append_nil history).symm, h⟩

/-- **An operation takes effect at the end** of the history; the history passes through all the
states it did. -/
theorem Serial.append (h : Serial apply s history t) (hop : apply op t = (r, u)) :
    Serial apply s (history ++ [(op, r)]) u ∧
      ∀ v, Visits apply s history v → Visits apply s (history ++ [(op, r)]) v := by
  refine ⟨h.trans (.cons hop (.nil u)), ?_⟩
  rintro v ⟨before, after, rfl, hv⟩
  exact ⟨before, after ++ [(op, r)], List.append_assoc _ _ _, hv⟩

/-- **An operation that only reads** goes where its state was current; the others keep their
results and the history passes through all the states it did.

**Proof sketch.** The history is cut at the state that was read. What lies before another visited
state is cut there too, or is a beginning of the first part. -/
theorem Serial.insert (h : Serial apply s history t) (hvisits : Visits apply s history u)
    (hop : apply op u = (r, u)) :
    ∃ history', history'.Perm (history ++ [(op, r)]) ∧ Serial apply s history' t ∧
      ∀ v, Visits apply s history v → Visits apply s history' v := by
  obtain ⟨before, after, rfl, hbefore⟩ := hvisits
  obtain ⟨u', hbefore', hafter⟩ := h.split
  obtain rfl := hbefore.unique hbefore'
  refine ⟨before ++ (op, r) :: after, ?_, hbefore.trans (.cons hop hafter), ?_⟩
  · rw [List.append_assoc]
    exact List.Perm.append_left before (List.perm_append_singleton (op, r) after).symm
  · rintro v ⟨before', after', heq, hv⟩
    rcases List.append_eq_append_iff.mp heq with ⟨middle, rfl, rfl⟩ | ⟨middle, rfl, rfl⟩
    · obtain ⟨w, hw, hmiddle⟩ := hv.split
      obtain rfl := hw.unique hbefore
      refine ⟨before ++ (op, r) :: middle, after', by simp, ?_⟩
      exact hbefore.trans (.cons hop hmiddle)
    · exact ⟨before', middle ++ (op, r) :: after, by simp, hv⟩

/-! ### Since an event -/

/-- Some event has established something, and none of the events since then has ended it. -/
def Since (establishes ends : β → Prop) (events : List β) : Prop :=
  ∃ before e after, events = before ++ e :: after ∧ establishes e ∧ ∀ b ∈ after, ¬ ends b

variable {establishes ends : β → Prop}

lemma not_since_nil : ¬ Since establishes ends [] := by
  rintro ⟨before, e, after, heq, -⟩
  simp at heq

/-- **One more event** establishes anew, or does not end what was established. -/
theorem since_append_singleton {events : List β} {b : β} :
    Since establishes ends (events ++ [b]) ↔
      establishes b ∨ Since establishes ends events ∧ ¬ ends b := by
  constructor
  · rintro ⟨before, e, after, heq, he, hafter⟩
    rcases List.eq_nil_or_concat after with rfl | ⟨after', last, rfl⟩
    · obtain ⟨-, hlast⟩ := List.append_inj' heq rfl
      obtain rfl := List.singleton_inj.mp hlast
      exact .inl he
    · have heq' : events ++ [b] = (before ++ e :: after') ++ [last] := by
        rw [heq, List.concat_eq_append, List.append_assoc, List.cons_append]
      obtain ⟨rfl, hlast⟩ := List.append_inj' heq' rfl
      obtain rfl := List.singleton_inj.mp hlast
      refine .inr ⟨⟨before, e, after', rfl, he, fun b hb => hafter b ?_⟩, hafter _ ?_⟩ <;> simp [*]
  · rintro (he | ⟨⟨before, e, after, rfl, he, hafter⟩, hb⟩)
    · exact ⟨events, b, [], rfl, he, fun b hb => absurd hb List.not_mem_nil⟩
    · refine ⟨before, e, after ++ [b], by simp, he, fun c hc => ?_⟩
      rcases List.mem_append.mp hc with hc | hc
      · exact hafter c hc
      · rwa [List.mem_singleton.mp hc]

/-- Between an event that establishes something and one that it bars, some event ends it. -/
def Barred (establishes ends barred : β → Prop) (events : List β) : Prop :=
  ∀ before e after, events = before ++ e :: after → barred e → ¬ Since establishes ends before

lemma Barred.append_singleton {establishes ends barred : β → Prop} {events : List β} {b : β}
    (h : Barred establishes ends barred events)
    (hb : barred b → ¬ Since establishes ends events) :
    Barred establishes ends barred (events ++ [b]) := by
  intro before e after heq he
  rcases List.eq_nil_or_concat after with rfl | ⟨after', last, rfl⟩
  · obtain ⟨rfl, hlast⟩ := List.append_inj' heq rfl
    obtain rfl := List.singleton_inj.mp hlast
    exact hb he
  · have heq' : events ++ [b] = (before ++ e :: after') ++ [last] := by
      rw [heq, List.concat_eq_append, List.append_assoc, List.cons_append]
    obtain ⟨rfl, -⟩ := List.append_inj' heq' rfl
    exact h before e after' rfl he

end Serialization
