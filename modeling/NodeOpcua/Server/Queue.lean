import Mathlib.Data.Int.Notation
import NodeOpcua.Library.Mealy

set_option autoImplicit false

/-!
# The queue of the server

A wrapper of a doubly linked list counts its elements, and should be a plain list that is first in,
first out.

## Main definitions

* `Queue`.
* `Queue.Refines`.

## Design

* The linked list is a parameter, with what it is known to do.
-/

namespace NodeOpcua

variable {T D : Type}

/-- **The package** `dequeue`: the data of the nodes, from `head.next` up to `head`, and the operations. -/
structure Dequeue (T D : Type) where
  new : D
  nodes : D → List T
  first : D → Option T
  shift : D → Option T × D
  push : D → T → D
  remove : D → (T → Bool) → D

/-- The package is a linked list. -/
structure Dequeue.IsLinkedList (d : Dequeue T D) : Prop where
  new : d.nodes d.new = []
  first : ∀ s, d.first s = (d.nodes s).head?
  shift : ∀ s, (d.shift s).1 = (d.nodes s).head? ∧ d.nodes (d.shift s).2 = (d.nodes s).tail
  push : ∀ s v, d.nodes (d.push s v) = d.nodes s ++ [v]
  remove : ∀ s P, d.nodes (d.remove s P) = (d.nodes s).filter fun v => !P v

structure Queue (D : Type) where
  _d : D
  size : ℤ

inductive QueueCall (T : Type)
  | clear
  | first
  | shift
  | push (value : T)
  | filterOut (predicate : T → Bool)
  | values
  | size

inductive QueueAnswer (T : Type)
  | element (value : Option T)
  | count (n : ℤ)
  | elements (values : List T)

namespace Queue

section

variable (d : Dequeue T D) (q : Queue D)

/-- **A call** of the wrapper. -/
def call : QueueCall T → Queue D × List (QueueAnswer T)
  | .clear => ({ q with size := 0 }, [])
  | .first => (q, [.element (if q.size = 0 then none else d.first q._d)])
  | .shift =>
    if q.size = 0 then (q, [.element none])
    else (⟨(d.shift q._d).2, q.size - 1⟩, [.element (d.shift q._d).1])
  | .push value => (⟨d.push q._d value, q.size + 1⟩, [])
  | .filterOut predicate =>
    let counter : ℤ := ((d.nodes q._d).filter predicate).length
    (⟨d.remove q._d predicate, q.size - counter⟩, [.count counter])
  | .values => (q, [.elements (d.nodes q._d)])
  | .size => (q, [.count q.size])

/-- **A call** of a plain list. -/
def fifo (l : List T) : QueueCall T → List T × List (QueueAnswer T)
  | .clear => ([], [])
  | .first => (l, [.element l.head?])
  | .shift => (l.tail, [.element l.head?])
  | .push value => (l ++ [value], [])
  | .filterOut predicate =>
    (l.filter fun v => !predicate v, [.count (l.filter predicate).length])
  | .values => (l, [.elements l])
  | .size => (l, [.count l.length])

/-- The wrapper holds the elements of a list. -/
def Holds (l : List T) : Prop := d.nodes q._d = l ∧ q.size = l.length

/-- **Along a run** the wrapper holds the elements of the plain list and answers as it does. -/
def Refines (calls : List (QueueCall T)) : Prop :=
  ∀ before, before <+: calls →
    (Mealy.run (call d) ⟨d.new, 0⟩ before).1.Holds d (Mealy.run fifo [] before).1 ∧
    (Mealy.run (call d) ⟨d.new, 0⟩ before).2 = (Mealy.run fifo [] before).2

/-- Only an empty list is cleared. -/
def ClearsEmpty (l : List T) (c : QueueCall T) : Prop :=
  match c with
  | .clear => l = []
  | _ => True

end

section

variable {d : Dequeue T D} (h : d.IsLinkedList) {q : Queue D} {l : List T}
include h

/-- **One call** does what it does to the list, unless a list with elements is cleared. -/
lemma call_holds_iff (hq : q.Holds d l) (c : QueueCall T) :
    (q.call d c).1.Holds d (fifo l c).1 ∧ (q.call d c).2 = (fifo l c).2 ↔ ClearsEmpty l c := by
  obtain ⟨rfl, hsize⟩ := hq
  have hzero : q.size = 0 ↔ d.nodes q._d = [] := by
    rw [hsize, ← List.length_eq_zero_iff]
    omega
  cases c with
  | clear => simp [call, fifo, Holds, ClearsEmpty]
  | first =>
    by_cases hnil : d.nodes q._d = []
    · simp [call, fifo, Holds, ClearsEmpty, hsize, hnil]
    · simp [call, fifo, Holds, ClearsEmpty, hsize, hnil, h.first]
  | shift =>
    by_cases hnil : d.nodes q._d = []
    · simp [call, fifo, Holds, ClearsEmpty, hsize, hnil]
    · have hpos : 1 ≤ (d.nodes q._d).length := List.length_pos_iff.mpr hnil
      have hlength : ((d.nodes q._d).length : ℤ) - 1 = ((d.nodes q._d).length - 1 : ℕ) := by omega
      simp [call, fifo, Holds, ClearsEmpty, hzero, hnil, h.shift, ← hlength, ← hsize]
  | push value => simp [call, fifo, Holds, ClearsEmpty, h.push, hsize]
  | filterOut predicate =>
    have hcount := List.length_eq_length_filter_add (l := d.nodes q._d) predicate
    simp only [call, fifo, Holds, ClearsEmpty, h.remove, hsize, and_true, true_and, iff_true]
    omega
  | values => simp [call, fifo, Holds, ClearsEmpty, hsize]
  | size => simp [call, fifo, Holds, ClearsEmpty, hsize]

/-- **The wrapper refines a plain list** along a run exactly when only an empty queue is cleared. -/
theorem run_refines_iff (calls : List (QueueCall T)) :
    Refines d calls ↔ Mealy.Along fifo ClearsEmpty [] calls := by
  have hstart : Holds d ⟨d.new, 0⟩ [] := ⟨h.new, rfl⟩
  unfold Refines
  generalize (⟨d.new, 0⟩ : Queue D) = q at hstart ⊢
  generalize ([] : List T) = l at hstart ⊢
  induction calls generalizing q l with
  | nil =>
    refine iff_of_true (fun before hbefore => ?_) trivial
    rw [List.prefix_nil.mp hbefore]
    exact ⟨hstart, rfl⟩
  | cons c calls ih =>
    rw [Mealy.Along, ← call_holds_iff h hstart c]
    constructor
    · intro hall
      have hone : (q.call d c).1.Holds d (fifo l c).1 ∧ (q.call d c).2 = (fifo l c).2 := by
        simpa using hall [c] (by simp)
      refine ⟨hone, (ih _ _ hone.1).mp fun before hbefore => ?_⟩
      have hmore := hall (c :: before) (by simpa using hbefore)
      rw [Mealy.run_cons_fst, Mealy.run_cons_fst, Mealy.run_cons_snd, Mealy.run_cons_snd, hone.2] at hmore
      exact ⟨hmore.1, List.append_cancel_left hmore.2⟩
    · rintro ⟨hone, hrest⟩ before hbefore
      cases before with
      | nil => exact ⟨hstart, rfl⟩
      | cons c' before =>
        obtain ⟨rfl, hprefix⟩ := List.cons_prefix_cons.mp hbefore
        obtain ⟨hholds, hsame⟩ := (ih _ _ hone.1).mpr hrest before hprefix
        rw [Mealy.run_cons_snd, Mealy.run_cons_snd, hone.2, hsame]
        exact ⟨hholds, rfl⟩

end

/-- The package over lists. -/
def listDequeue (T : Type) : Dequeue T (List T) where
  new := []
  nodes := id
  first := List.head?
  shift := fun l => (l.head?, l.tail)
  push := fun l v => l ++ [v]
  remove := fun l P => l.filter fun v => !P v

lemma listDequeue_isLinkedList (T : Type) : (listDequeue T).IsLinkedList where
  new := rfl
  first := fun _ => rfl
  shift := fun _ => ⟨rfl, rfl⟩
  push := fun _ _ => rfl
  remove := fun _ _ => rfl

/-- Two elements come out in order, and the queue is cleared after them. -/
theorem run_refines_two : Refines (listDequeue ℕ) [.push 1, .push 2, .shift, .values, .shift, .clear, .size] :=
  (run_refines_iff (listDequeue_isLinkedList ℕ) _).mpr (by simp [Mealy.Along, ClearsEmpty, fifo])

/-- **A queue with an element is cleared**: the element comes out before the next one. -/
theorem cleared_element_shifted : ¬ Refines (listDequeue ℕ) [.push 1, .clear, .push 2, .shift] := by
  intro h
  have hanswer := (h _ (List.prefix_refl _)).2
  cases hanswer

end Queue

end NodeOpcua
