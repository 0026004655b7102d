import Mathlib.Data.Finset.Card
import Mathlib.Logic.Relation

set_option autoImplicit false

/-!
# A depth-first order

A visit marks a node, visits the nodes it refers to, and then puts it at the end of the order.

## Main definitions

* `DepthFirst.visit`.
* `DepthFirst.Ordered`.
-/

namespace DepthFirst

variable {α : Type} [DecidableEq α] (targets : α → Option (List α))

/-- The nodes that are marked, and the order of those that are left. -/
structure State (α : Type) where
  visited : List α
  order : List α

/-- **Visits** of nodes one after the other, up to a depth. A node that does not exist cannot be
visited. -/
def visit : ℕ → List α → State α → Option (State α)
  | _, [], s => some s
  | 0, _ :: _, _ => none
  | depth + 1, n :: next, s =>
    if n ∈ s.visited then visit (depth + 1) next s
    else do
      let s ← visit depth (← targets n) { s with visited := n :: s.visited }
      visit (depth + 1) next { s with order := s.order ++ [n] }
termination_by depth next => (depth, next.length)

/-- One node refers to another. -/
def Refers (a b : α) : Prop := ∃ next, targets a = some next ∧ b ∈ next

/-- One node leads to another. -/
abbrev Leads : α → α → Prop := Relation.ReflTransGen (Refers targets)

/-- **The order while the nodes of a path are being visited**: what a node refers to comes before it,
unless it leads back. -/
structure Ordered (path : List α) (s : State α) : Prop where
  visited_iff : ∀ n, n ∈ s.visited ↔ n ∈ path ∨ n ∈ s.order
  notMem : ∀ n ∈ path, n ∉ s.order
  nodup : s.order.Nodup
  isSome : ∀ n ∈ s.order, (targets n).isSome
  before : ∀ a ∈ s.order, ∀ b, Refers targets a b →
    s.order.idxOf b < s.order.idxOf a ∨ Leads targets b a

variable {targets} {path : List α} {s s' : State α} {n : α}

lemma Ordered.mark (h : Ordered targets path s) (hn : n ∉ s.visited) :
    Ordered targets (n :: path) { s with visited := n :: s.visited } := by
  refine ⟨fun m => ?_, fun m hm => ?_, h.nodup, h.isSome, h.before⟩
  · rw [List.mem_cons, List.mem_cons, h.visited_iff, or_assoc]
  · rcases List.mem_cons.mp hm with rfl | hm
    · exact fun horder => hn ((h.visited_iff m).mpr (.inr horder))
    · exact h.notMem m hm

/-- A node is left when all it refers to is marked. What is still on the path leads to it. -/
lemma Ordered.leave (h : Ordered targets (n :: path) s) (hn : n ∉ path) (hsome : (targets n).isSome)
    (hpath : ∀ m ∈ path, Leads targets m n) (hnext : ∀ b, Refers targets n b → b ∈ s.visited) :
    Ordered targets path { s with order := s.order ++ [n] } := by
  have hlast : n ∉ s.order := h.notMem n (List.mem_cons_self ..)
  refine ⟨fun m => ?_, fun m hm => ?_, ?_, fun m hm => ?_, fun a ha b hab => ?_⟩
  · rw [h.visited_iff, List.mem_cons, List.mem_append, List.mem_singleton]
    tauto
  · rw [List.mem_append, List.mem_singleton]
    rintro (horder | rfl)
    · exact h.notMem m (List.mem_cons_of_mem n hm) horder
    · exact hn hm
  · exact List.nodup_append.mpr ⟨h.nodup, List.nodup_singleton n, fun m hm k hk hmk =>
      hlast (List.mem_singleton.mp hk ▸ hmk ▸ hm)⟩
  · rcases List.mem_append.mp hm with hm | hm
    · exact h.isSome m hm
    · exact List.mem_singleton.mp hm ▸ hsome
  · rcases List.mem_append.mp ha with ha | ha
    · refine (h.before a ha b hab).imp_left fun hlt => ?_
      have hb : b ∈ s.order :=
        List.idxOf_lt_length_iff.mp (hlt.trans (List.idxOf_lt_length_iff.mpr ha))
      rwa [List.idxOf_append_of_mem ha, List.idxOf_append_of_mem hb]
    · obtain rfl := List.mem_singleton.mp ha
      rcases (h.visited_iff b).mp (hnext b hab) with hb | hb
      · rcases List.mem_cons.mp hb with rfl | hb
        · exact .inr .refl
        · exact .inr (hpath b hb)
      · left
        rw [List.idxOf_append_of_mem hb, List.idxOf_append_of_notMem hlast]
        exact Nat.lt_add_right _ (List.idxOf_lt_length_iff.mpr hb)

variable (targets path s s') in
/-- **What visits give**: the order has grown and the path is the same. -/
structure Grown : Prop where
  ordered : Ordered targets path s'
  isPrefix : s.order <+: s'.order

lemma Grown.visited (hs : Ordered targets path s) (h : Grown targets path s s') (hn : n ∈ s.visited) :
    n ∈ s'.visited :=
  (h.ordered.visited_iff n).mpr (((hs.visited_iff n).mp hn).imp_right fun hn => h.isPrefix.subset hn)

variable {nodes : Finset α}

lemma card_unvisited_le (h : ∀ n ∈ s.visited, n ∈ s'.visited) :
    (nodes \ s'.visited.toFinset).card ≤ (nodes \ s.visited.toFinset).card :=
  Finset.card_le_card (by grind [List.mem_toFinset])

lemma card_unvisited_lt (hnode : n ∈ nodes) (hn : n ∉ s.visited) :
    (nodes \ (n :: s.visited).toFinset).card < (nodes \ s.visited.toFinset).card :=
  Finset.card_lt_card (Finset.ssubset_iff_of_subset (by grind [List.mem_toFinset]) |>.mpr
    ⟨n, by simp [hnode, hn], by simp⟩)

/-- **Visits get to their end** when the depth is more than the nodes that are left.

**Proof sketch.** By induction on the depth, and then on the nodes: a node is marked, so that fewer are
left for those that it refers to. -/
theorem visit_grown (hnodes : ∀ n ∈ nodes, ∃ next, targets n = some next ∧ ∀ t ∈ next, t ∈ nodes)
    {depth : ℕ} {next : List α} (hs : Ordered targets path s)
    (hnext : ∀ n ∈ next, n ∈ nodes ∧ ∀ m ∈ path, Leads targets m n)
    (hdepth : (nodes \ s.visited.toFinset).card < depth) :
    ∃ s', visit targets depth next s = some s' ∧ Grown targets path s s' ∧
      ∀ n ∈ next, n ∈ s'.visited := by
  induction depth generalizing path next s with
  | zero => exact absurd hdepth (Nat.not_lt_zero _)
  | succ depth ihdepth =>
    induction next generalizing s with
    | nil => exact ⟨s, by rw [visit], ⟨hs, List.prefix_refl _⟩, nofun⟩
    | cons n next ih =>
      obtain ⟨⟨hn, hpath⟩, hnext⟩ := List.forall_mem_cons.mp hnext
      -- the state after the visit of the first node
      obtain ⟨t, ht, hgrown, hmem⟩ : ∃ t, visit targets (depth + 1) (n :: next) s =
          visit targets (depth + 1) next t ∧ Grown targets path s t ∧ n ∈ t.visited := by
        rw [visit]
        by_cases hvisited : n ∈ s.visited
        · exact ⟨s, if_pos hvisited, ⟨hs, List.prefix_refl _⟩, hvisited⟩
        · obtain ⟨below, htargets, hclosed⟩ := hnodes n hn
          have hedge : ∀ b ∈ below, Refers targets n b := fun b hb => ⟨below, htargets, hb⟩
          obtain ⟨t, ht, hgrown, hall⟩ := ihdepth (hs.mark hvisited)
            (fun b hb => ⟨hclosed b hb, List.forall_mem_cons.mpr
              ⟨.single (hedge b hb), fun m hm => (hpath m hm).tail (hedge b hb)⟩⟩)
            (Nat.lt_of_lt_of_le (card_unvisited_lt hn hvisited) (Nat.lt_succ_iff.mp hdepth))
          refine ⟨{ t with order := t.order ++ [n] }, by simp [hvisited, htargets, ht], ⟨?_, ?_⟩,
            (hgrown.ordered.visited_iff n).mpr (.inl (List.mem_cons_self ..))⟩
          · refine hgrown.ordered.leave (fun h => hvisited ((hs.visited_iff n).mpr (.inl h)))
              (Option.isSome_of_mem htargets) hpath ?_
            rintro b ⟨next', htargets', hb⟩
            exact hall b (Option.some.inj (htargets.symm.trans htargets') ▸ hb)
          · exact hgrown.isPrefix.trans (List.prefix_append _ _)
      obtain ⟨s', hs', hgrown', hall⟩ := ih hgrown.ordered hnext
        ((card_unvisited_le fun m hm => hgrown.visited hs hm).trans_lt hdepth)
      exact ⟨s', ht.trans hs', ⟨hgrown'.ordered, hgrown.isPrefix.trans hgrown'.isPrefix⟩,
        List.forall_mem_cons.mpr ⟨hgrown'.visited hgrown.ordered hmem, hall⟩⟩

end DepthFirst
