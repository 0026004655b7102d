import Mathlib.Data.List.Perm.Basic
import Mathlib.Data.List.Range
import Mathlib.Logic.Relation
import Mathlib.Tactic.Common

set_option autoImplicit false

/-!
# The ledger of a queue of requests

Requests arrive one after the other, wait in a queue, and are answered. A ledger keeps them by their
numbers in the order of arrival. Some answers may be given out of turn, to a request that is not the
oldest one. Nothing here depends on the program under verification.

## Main definitions

* `Ledger`.
* `Ledger.Step`, `Ledger.Reachable`.

## Main results

* `Ledger.Reachable.balanced`, `Ledger.Reachable.sorted`.
* `Ledger.Reachable.inTurn`.
-/

/-- **A ledger**, for answers of the type `β`. -/
structure Ledger (β : Type*) where
  received : ℕ
  waiting : List ℕ
  answered : List (ℕ × β)

namespace Ledger

open List (append_assoc map_cons append_cons)
open List.Perm (append_right append_left)
open Prod (fst)

variable {β : Type*}

/-- A ledger without requests. -/
def empty : Ledger β := ⟨0, [], []⟩

/-- **A step**: a request arrives; the oldest one is answered, or another one out of turn; or a
request is answered when it arrives. -/
inductive Step (outOfTurn : β → Prop) : Ledger β → Ledger β → Prop
  | receive (l : Ledger β) :
      Step outOfTurn l
        { l with received := l.received + 1, waiting := l.waiting ++ [l.received] }
  | answer (l : Ledger β) (n : ℕ) (waiting : List ℕ) (b : β) (h : l.waiting = n :: waiting) :
      Step outOfTurn l { l with waiting, answered := l.answered ++ [(n, b)] }
  | pass (l : Ledger β) (before : List ℕ) (n : ℕ) (after : List ℕ) (b : β)
      (h : l.waiting = before ++ n :: after) (hb : outOfTurn b) :
      Step outOfTurn l { l with waiting := before ++ after, answered := l.answered ++ [(n, b)] }
  | refuse (l : Ledger β) (b : β) (h : l.waiting = [] ∨ outOfTurn b) :
      Step outOfTurn l
        { l with received := l.received + 1, answered := l.answered ++ [(l.received, b)] }

/-- **What a ledger can become**. -/
def Reachable (outOfTurn : β → Prop) (l : Ledger β) : Prop :=
  Relation.ReflTransGen (Step outOfTurn) empty l

variable {outOfTurn : β → Prop}

/-- **Every request** waits or was answered, and once only. -/
def Balanced (l : Ledger β) : Prop :=
  (l.answered.map fst ++ l.waiting).Perm (List.range l.received)

/-- **In turn**: an answer that may not be given out of turn is given when all the older requests
are answered. -/
def InTurn (outOfTurn : β → Prop) (l : Ledger β) : Prop :=
  ∀ as n b bs, l.answered = as ++ (n, b) :: bs → ¬ outOfTurn b → ∀ m < n, m ∈ as.map fst

lemma split_concat {γ : Type*} {l as bs : List γ} {x y : γ} (h : l ++ [x] = as ++ y :: bs) :
    (as = l ∧ y = x) ∨ ∃ rest, l = as ++ y :: rest := by
  rcases List.eq_nil_or_concat bs with rfl | ⟨rest, z, rfl⟩
  · obtain ⟨hl, hx⟩ := List.append_inj' h rfl
    injection hx with hx
    exact .inl ⟨hl.symm, hx.symm⟩
  · rw [List.concat_eq_append, ← List.cons_append, ← append_assoc] at h
    exact .inr ⟨rest, (List.append_inj' h rfl).1⟩

variable {l : Ledger β} {received : ℕ}

lemma InTurn.concat (h : l.InTurn outOfTurn) {n : ℕ} {b : β}
    (hn : ¬ outOfTurn b → ∀ m < n, m ∈ l.answered.map fst) {waiting : List ℕ} :
    InTurn outOfTurn ⟨received, waiting, l.answered ++ [(n, b)]⟩ := by
  intro as k c bs hsplit hc m hm
  rcases split_concat hsplit with ⟨rfl, heq⟩ | ⟨rest, hrest⟩
  · injection heq with hk hcb
    subst hk hcb
    exact hn hc m hm
  · exact h as k c rest hrest hc m hm

lemma Balanced.mem (h : l.Balanced) {m : ℕ} (hm : m < l.received) :
    m ∈ l.answered.map fst ∨ m ∈ l.waiting :=
  List.mem_append.mp (h.mem_iff.mpr (List.mem_range.mpr hm))

lemma Balanced.lt (h : l.Balanced) {m : ℕ} (hm : m ∈ l.waiting) : m < l.received :=
  List.mem_range.mp (h.mem_iff.mp (List.mem_append_right _ hm))

variable {l l' : Ledger β}

section

variable (h : Step outOfTurn l l') (hl : l.Balanced)
include h hl

lemma Step.balanced :
    l'.Balanced := by
  cases h with
  | receive =>
    show (_ ++ (l.waiting ++ [l.received])).Perm (List.range (l.received + 1))
    rw [List.range_succ, ← append_assoc]
    exact append_right _ hl
  | answer n waiting b h =>
    show ((l.answered ++ [(n, b)]).map fst ++ waiting).Perm _
    rwa [List.map_append, append_assoc, List.map_singleton, List.singleton_append, ← h]
  | pass before n after b h hb =>
    show ((l.answered ++ [(n, b)]).map fst ++ (before ++ after)).Perm _
    unfold Balanced at hl
    rw [h] at hl
    rw [List.map_append, append_assoc, List.map_singleton, List.singleton_append]
    exact (append_left _ List.perm_middle.symm).trans hl
  | refuse b h =>
    show ((l.answered ++ [(l.received, b)]).map fst ++ l.waiting).Perm
      (List.range (l.received + 1))
    rw [List.range_succ, List.map_append, append_assoc, List.map_singleton]
    refine (append_left _ List.perm_append_comm).trans ?_
    rw [← append_assoc]
    exact append_right _ hl

lemma Step.sorted (hsorted : l.waiting.Pairwise (· < ·)) : l'.waiting.Pairwise (· < ·) := by
  cases h with
  | receive =>
    apply List.pairwise_append.mpr
    refine ⟨hsorted, List.pairwise_singleton _ _, ?_⟩
    intro m hm n hn
    rw [List.mem_singleton.mp hn]
    exact hl.lt hm
  | answer n waiting b h =>
    rw [h] at hsorted
    exact hsorted.of_cons
  | pass before n after b h hb =>
    rw [h] at hsorted
    exact hsorted.sublist (List.Sublist.append_left (List.sublist_cons_self _ _) _)
  | refuse => exact hsorted

lemma Step.inTurn
    (hsorted : l.waiting.Pairwise (· < ·)) (hturn : l.InTurn outOfTurn) : l'.InTurn outOfTurn := by
  cases h with
  | receive => exact hturn
  | answer n waiting b h =>
    apply hturn.concat
    intro _ m hm
    have hn : n ∈ l.waiting := h ▸ List.mem_cons_self
    refine (hl.mem (hm.trans (hl.lt hn))).resolve_right fun hwait => ?_
    rw [h] at hwait hsorted
    rcases List.mem_cons.mp hwait with heq | hwait
    · omega
    · have hlt := List.rel_of_pairwise_cons hsorted hwait
      omega
  | pass before n after b h hb => exact hturn.concat fun hnot => absurd hb hnot
  | refuse b h =>
    apply hturn.concat
    intro hnot m hm
    have hnone : l.waiting = [] := h.resolve_right hnot
    refine (hl.mem hm).resolve_right fun hwait => ?_
    rw [hnone] at hwait
    exact List.not_mem_nil hwait

end

section

variable (h : Reachable outOfTurn l)
include h

lemma Reachable.sound :
    l.Balanced ∧ l.waiting.Pairwise (· < ·) ∧ l.InTurn outOfTurn := by
  induction h with
  | refl =>
    refine ⟨List.Perm.refl _, List.Pairwise.nil, ?_⟩
    intro as n b bs hsplit
    exact absurd hsplit (List.append_ne_nil_of_right_ne_nil _ (List.cons_ne_nil _ _)).symm
  | tail _ hstep ih =>
    obtain ⟨hbal, hsorted, hturn⟩ := ih
    exact ⟨hstep.balanced hbal, hstep.sorted hbal hsorted,
      hstep.inTurn hbal hsorted hturn⟩

/-- **Accounting**: every request waits or was answered, and once only. -/
theorem Reachable.balanced : l.Balanced := h.sound.1

/-- **The queue**: the requests wait in the order in which they arrived. -/
theorem Reachable.sorted :
    l.waiting.Pairwise (· < ·) := h.sound.2.1

/-- **The order of the answers**. -/
theorem Reachable.inTurn : l.InTurn outOfTurn :=
  h.sound.2.2

end

variable {answered : List (ℕ × β)}

lemma Reachable.passAll {α : Type*} {number : α → ℕ} (reqs : List α)
    (b : β) (hb : outOfTurn b) (p : α → Bool) (before : List ℕ)
    (h : Reachable outOfTurn ⟨received, before ++ reqs.map number, answered⟩) :
    Reachable outOfTurn
      ⟨received, before ++ (reqs.filter fun r => !p r).map number,
        answered ++ (reqs.filter p).map fun r => (number r, b)⟩ := by
  induction reqs generalizing before answered with
  | nil => simpa using h
  | cons r reqs ih =>
    by_cases hr : p r = true
    · have hpass := h.tail (Step.pass _ before (number r) (reqs.map number) b rfl hb)
      have hall := ih before hpass
      rw [List.filter_cons_of_pos hr, List.filter_cons_of_neg (by simp [hr]), map_cons,
        append_cons]
      exact hall
    · rw [map_cons, append_cons] at h
      have hall := ih _ h
      rw [List.filter_cons_of_neg hr, List.filter_cons_of_pos (by simpa using hr), map_cons,
        append_cons]
      exact hall

lemma Reachable.answerAll {α : Type*} {number : α → ℕ} (reqs : List α) (b : β)
    (h : Reachable outOfTurn ⟨received, reqs.map number, answered⟩) :
    Reachable outOfTurn ⟨received, [], answered ++ reqs.map fun r => (number r, b)⟩ := by
  induction reqs generalizing answered with
  | nil => simpa using h
  | cons r reqs ih =>
    have hans := h.tail (Step.answer _ (number r) (reqs.map number) b rfl)
    rw [map_cons, append_cons]
    exact ih hans

end Ledger
