import Mathlib.Data.List.Basic
import Mathlib.Logic.Relation

set_option autoImplicit false

/-!
# Machines with output, and invariants of their runs

A component that reacts to one input at a time, changes its state and emits a list of events
is a function `step : σ → α → σ × List β`. This file has the runs of such a function and the
induction rules that carry a fact about one step to a whole run. Nothing here depends on the
program under verification.

## Main definitions

* `Mealy.run`, `Mealy.Along`, `Mealy.trace`.

## Main results

* `Mealy.run_append`, `Mealy.along_iff`, `Mealy.along_of_along`, `Mealy.run_invariant`,
  `Mealy.run_output`, `Mealy.run_history`, `Mealy.run_history_output`, `Mealy.run_log`,
  `Mealy.run_log_output`, `Mealy.run_simulates`.
-/

namespace Mealy

variable {σ α β : Type*} (step : σ → α → σ × List β)

/-- The state reached from `s` on the inputs, and the events emitted on the way, in order. -/
def run : σ → List α → σ × List β
  | s, [] => (s, [])
  | s, a :: as =>
    let r := step s a
    let r' := run r.1 as
    (r'.1, r.2 ++ r'.2)

@[simp] lemma run_nil (s : σ) : run step s [] = (s, []) := rfl

@[simp] lemma run_cons_fst (s : σ) (a : α) (as : List α) :
    (run step s (a :: as)).1 = (run step (step s a).1 as).1 := rfl

@[simp] lemma run_cons_snd (s : σ) (a : α) (as : List α) :
    (run step s (a :: as)).2 = (step s a).2 ++ (run step (step s a).1 as).2 := rfl

section

variable (s : σ) (as bs : List α)

lemma run_append_fst :
    (run step s (as ++ bs)).1 = (run step (run step s as).1 bs).1 := by
  induction as generalizing s with
  | nil => rfl
  | cons a as ih => exact ih _

lemma run_append_snd :
    (run step s (as ++ bs)).2 = (run step s as).2 ++ (run step (run step s as).1 bs).2 := by
  induction as generalizing s with
  | nil => rfl
  | cons a as ih =>
    rw [List.cons_append, run_cons_snd, ih, run_cons_snd, run_cons_fst, List.append_assoc]

/-- **A run over a concatenation** is the run over the first part followed by the run over the
second. -/
theorem run_append :
    run step s (as ++ bs) =
      ((run step (run step s as).1 bs).1, (run step s as).2 ++ (run step (run step s as).1 bs).2) :=
  Prod.ext (run_append_fst step s as bs) (run_append_snd step s as bs)

end

/-- The condition `A` holds of the state and the input at every step of the run from `s`. -/
def Along (A : σ → α → Prop) : σ → List α → Prop
  | _, [] => True
  | s, a :: as => A s a ∧ Along A (step s a).1 as

variable {A : σ → α → Prop} {as : List α} {s : σ}

lemma along_of_forall (h : ∀ t, ∀ a ∈ as, A t a) :
    Along step A s as := by
  induction as generalizing s with
  | nil => trivial
  | cons a as ih =>
    exact ⟨h s a (by simp), ih fun t b hb => h t b (by simp [hb])⟩

lemma along_append {as bs : List α} :
    Along step A s (as ++ bs) ↔ Along step A s as ∧ Along step A (run step s as).1 bs := by
  induction as generalizing s with
  | nil => simp [Along]
  | cons a as ih => simp [Along, ih, and_assoc]

variable {A B : σ → α → Prop}

lemma along_and :
    Along step (fun t a => A t a ∧ B t a) s as ↔ Along step A s as ∧ Along step B s as := by
  induction as generalizing s with
  | nil => simp [Along]
  | cons a as ih => simp [Along, ih, and_and_and_comm]

variable {I : σ → Prop}

section

variable (hstep : ∀ s a, I s → A s a → I (step s a).1)
include hstep

/-- **The equivalence rule**: two conditions that are equivalent at every state of an invariant that
the first one preserves hold along the same runs.

**Proof sketch.** Induction on the inputs. -/
theorem along_iff (hiff : ∀ s a, I s → (A s a ↔ B s a))
    (hs : I s) (as : List α) : Along step A s as ↔ Along step B s as := by
  induction as generalizing s with
  | nil => exact Iff.rfl
  | cons a as ih =>
    simp only [Along]
    rw [← hiff s a hs]
    exact and_congr_right fun ha => ih (hstep s a hs ha)

/-- **The consequence rule**: a condition that follows from another one at every state of an invariant
that the other one preserves holds along the runs along which the other one does.

**Proof sketch.** Induction on the inputs. -/
theorem along_of_along (himp : ∀ s a, I s → A s a → B s a)
    (hs : I s) (ha : Along step A s as) : Along step B s as := by
  induction as generalizing s with
  | nil => trivial
  | cons a as ih => exact ⟨himp s a hs ha.1, ih (hstep s a hs ha.1) ha.2⟩

/-- **The invariant rule**: what holds initially and is preserved by every step that meets the
condition holds after every run whose steps all meet it.

**Proof sketch.** Induction on the inputs. -/
theorem run_invariant (hs : I s) (ha : Along step A s as) : I (run step s as).1 := by
  induction as generalizing s with
  | nil => exact hs
  | cons a as ih => exact ih (hstep s a hs ha.1) ha.2

/-- **The output rule**: under an invariant, what every admissible step says of its own events
holds of every event of an admissible run. -/
theorem run_output {P : β → Prop} (hout : ∀ s a, I s → A s a → ∀ b ∈ (step s a).2, P b) (hs : I s)
    (ha : Along step A s as) : ∀ b ∈ (run step s as).2, P b := by
  induction as generalizing s with
  | nil => simp
  | cons a as ih =>
    intro b hb
    rw [run_cons_snd, List.mem_append] at hb
    rcases hb with hb | hb
    · exact hout s a hs ha.1 b hb
    · exact ih (hstep s a hs ha.1) ha.2 b hb

end

/-! ### Runs with their history -/

/-- The steps of the run from `s`, in order: each input with the state it meets. -/
def trace : σ → List α → List (σ × α)
  | _, [] => []
  | s, a :: as => (s, a) :: trace (step s a).1 as

@[simp] lemma trace_nil (s : σ) : trace step s [] = [] := rfl

@[simp] lemma trace_cons (s : σ) (a : α) (as : List α) :
    trace step s (a :: as) = (s, a) :: trace step (step s a).1 as := rfl

lemma trace_append (s : σ) (as bs : List α) :
    trace step s (as ++ bs) = trace step s as ++ trace step (run step s as).1 bs := by
  induction as generalizing s with
  | nil => rfl
  | cons a as ih => rw [List.cons_append, trace_cons, ih, trace_cons, run_cons_fst, List.cons_append]

/-- What holds of every step that meets the condition under the invariant holds of the steps of a
run. -/
theorem trace_forall {A P : σ → α → Prop}
    (hstep : ∀ s a, I s → A s a → I (step s a).1) (hP : ∀ s a, I s → A s a → P s a)
    (hs : I s) (ha : Along step A s as) :
    ∀ q ∈ trace step s as, P q.1 q.2 := by
  induction as generalizing s with
  | nil => exact fun q hq => absurd hq List.not_mem_nil
  | cons a as ih =>
    intro q hq
    rcases List.mem_cons.mp hq with rfl | hq
    · exact hP s a hs ha.1
    · exact ih (hstep s a hs ha.1) ha.2 q hq

section History

variable {step} {I : List (σ × α) → σ → Prop} {A : σ → α → Prop}

/-- **The invariant rule with history**: an invariant that speaks of the steps taken so far. -/
theorem run_history (hstep : ∀ H s a, I H s → A s a → I (H ++ [(s, a)]) (step s a).1)
    {H : List (σ × α)} {s : σ} {as : List α} (hs : I H s) (ha : Along step A s as) :
    I (H ++ trace step s as) (run step s as).1 := by
  induction as generalizing H s with
  | nil => rwa [trace_nil, List.append_nil]
  | cons a as ih =>
    rw [trace_cons, List.append_cons]
    exact ih (hstep H s a hs ha.1) ha.2

/-- **The output rule with history**: what is said of an event may speak of the steps taken before
it, as long as later steps do not make it false. -/
theorem run_history_output {P : List (σ × α) → β → Prop}
    (hmono : ∀ H H' b, P H b → P (H ++ H') b)
    (hstep : ∀ H s a, I H s → A s a → I (H ++ [(s, a)]) (step s a).1)
    (hout : ∀ H s a, I H s → A s a → ∀ b ∈ (step s a).2, P (H ++ [(s, a)]) b)
    {H : List (σ × α)} {s : σ} {as : List α} (hs : I H s) (ha : Along step A s as) :
    ∀ b ∈ (run step s as).2, P (H ++ trace step s as) b := by
  induction as generalizing H s with
  | nil => exact fun b hb => absurd hb List.not_mem_nil
  | cons a as ih =>
    intro b hb
    rw [trace_cons, List.append_cons]
    rcases List.mem_append.mp hb with hb | hb
    · exact hmono _ _ b (hout H s a hs ha.1 b hb)
    · exact ih (hstep H s a hs ha.1) ha.2 b hb

end History

section Log

variable {step} {I : List β → σ → Prop} {A : σ → α → Prop}

/-- **The invariant rule with a log**: an invariant that speaks of the events emitted so far. -/
theorem run_log (hstep : ∀ L s a, I L s → A s a → I (L ++ (step s a).2) (step s a).1)
    {L : List β} {s : σ} {as : List α} (hs : I L s) (ha : Along step A s as) :
    I (L ++ (run step s as).2) (run step s as).1 := by
  induction as generalizing L s with
  | nil => rwa [run_nil, List.append_nil]
  | cons a as ih =>
    rw [run_cons_snd, ← List.append_assoc]
    exact ih (hstep L s a hs ha.1) ha.2

/-- **The output rule with a log**: what is said of an event may speak of the events emitted up to
it, as long as later events do not make it false. -/
theorem run_log_output {P : List β → β → Prop} (hmono : ∀ L L' b, P L b → P (L ++ L') b)
    (hstep : ∀ L s a, I L s → A s a → I (L ++ (step s a).2) (step s a).1)
    (hout : ∀ L s a, I L s → A s a → ∀ b ∈ (step s a).2, P (L ++ (step s a).2) b)
    {L : List β} {s : σ} {as : List α} (hs : I L s) (ha : Along step A s as) :
    ∀ b ∈ (run step s as).2, P (L ++ (run step s as).2) b := by
  induction as generalizing L s with
  | nil => exact fun b hb => absurd hb List.not_mem_nil
  | cons a as ih =>
    intro b hb
    rw [run_cons_snd, ← List.append_assoc]
    rcases List.mem_append.mp hb with hb | hb
    · exact hmono _ _ b (hout L s a hs ha.1 b hb)
    · exact ih (hstep L s a hs ha.1) ha.2 b hb

end Log

/-! ### Simulation -/

/-- **Simulation**: each step of the machine either is invisible or does what a step of the
abstract machine does; then a run emits what the abstract run emits. The function `label` gives the
input of the abstract step, `out` the abstract events. -/
theorem run_simulates {τ γ δ : Type*} (abs : τ → γ → τ × List δ) (label : σ × α → Option γ)
    (out : β → Option δ) {R : σ → τ → Prop}
    (hinvisible : ∀ s a t, R s t → A s a → label (s, a) = none →
      R (step s a).1 t ∧ (step s a).2.filterMap out = [])
    (hvisible : ∀ s a t c, R s t → A s a → label (s, a) = some c →
      R (step s a).1 (abs t c).1 ∧ (step s a).2.filterMap out = (abs t c).2)
    {t : τ} (hs : R s t) (ha : Along step A s as) :
    (run step s as).2.filterMap out =
      (run abs t ((trace step s as).filterMap label)).2 := by
  induction as generalizing s t with
  | nil => rfl
  | cons a as ih =>
    rw [run_cons_snd, List.filterMap_append, trace_cons]
    cases hlabel : label (s, a) with
    | none =>
      obtain ⟨hR, hout⟩ := hinvisible s a t hs ha.1 hlabel
      rw [List.filterMap_cons_none hlabel, hout, List.nil_append, ih hR ha.2]
    | some c =>
      obtain ⟨hR, hout⟩ := hvisible s a t c hs ha.1 hlabel
      rw [List.filterMap_cons_some hlabel, run_cons_snd, hout, ih hR ha.2]

end Mealy
