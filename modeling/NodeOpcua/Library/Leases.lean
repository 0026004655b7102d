import Mathlib.Data.List.Basic
import Mathlib.Data.List.Nodup
import Mathlib.Data.List.Perm.Basic
import Mathlib.Tactic.Common

set_option autoImplicit false

/-!
# Leases of resources, shared by readers and exclusive for writers

A resource is leased under a key. Several leases of a resource may read it, and a lease that writes
it is the only one. This file has the lists of leases, what can be granted, and what a grant and a
release do to the number of leases of a resource. Nothing here depends on the program under
verification.

## Main definitions

* `Lease`.
* `Lease.on`, `Lease.Exclusive`, `Lease.Admits`, `Lease.release`, `LeaseTable`.

## Main results

* `Lease.exclusive_concat_iff`, `Lease.length_on_release`,
  `LeaseTable.WellFormed.perm_granted_grant`, `LeaseTable.granted_remove`.
-/

/-- **A lease** of a resource under a key. -/
structure Lease (κ ρ : Type*) where
  key : κ
  resource : ρ
  writes : Bool
  deriving DecidableEq, Repr

namespace Lease

variable {κ ρ : Type*}

/-- The leases of a resource. -/
def on [DecidableEq ρ] (leases : List (Lease κ ρ)) (resource : ρ) : List (Lease κ ρ) :=
  leases.filter (·.resource = resource)

/-- **A lease that writes is the only one** of its resource. -/
def Exclusive (leases : List (Lease κ ρ)) : Prop :=
  ∀ a ∈ leases, ∀ b ∈ leases, a.resource = b.resource → a.key ≠ b.key → a.writes = false

instance [DecidableEq κ] [DecidableEq ρ] (leases : List (Lease κ ρ)) :
    Decidable (Exclusive leases) :=
  inferInstanceAs (Decidable (∀ a ∈ leases, ∀ b ∈ leases, _))

/-- **A new lease is admitted** beside the others: when the resource has a lease already, neither of
them writes. -/
def Admits (leases : List (Lease κ ρ)) (new : Lease κ ρ) : Prop :=
  ∀ a ∈ leases, a.resource = new.resource → a.writes = false ∧ new.writes = false

instance [DecidableEq ρ] (leases : List (Lease κ ρ)) (new : Lease κ ρ) :
    Decidable (Admits leases new) :=
  inferInstanceAs (Decidable (∀ a ∈ leases, _))

/-- The leases without those of a key. -/
def release [DecidableEq κ] (key : κ) (leases : List (Lease κ ρ)) : List (Lease κ ρ) :=
  leases.filter (·.key ≠ key)

variable {leases : List (Lease κ ρ)}

@[simp] lemma mem_release [DecidableEq κ] {key : κ} {a : Lease κ ρ} :
    a ∈ release key leases ↔ a ∈ leases ∧ a.key ≠ key := by
  simp [release]

variable {leases leases' : List (Lease κ ρ)}

lemma length_on_perm [DecidableEq ρ] (h : leases.Perm leases') (resource : ρ) :
    (on leases resource).length = (on leases' resource).length :=
  (h.filter _).length_eq

lemma exclusive_perm (h : leases.Perm leases') :
    Exclusive leases ↔ Exclusive leases' := by
  simp only [Exclusive, h.mem_iff]

lemma length_on_concat [DecidableEq ρ] (leases : List (Lease κ ρ)) (new : Lease κ ρ) (resource : ρ) :
    (on (leases ++ [new]) resource).length =
      (on leases resource).length + if new.resource = resource then 1 else 0 := by
  unfold on
  split_ifs with hresrc <;> simp [hresrc]

/-- **A lease can be granted** exactly when it is admitted. -/
theorem exclusive_concat_iff {new : Lease κ ρ}
    (hnew : ∀ a ∈ leases, a.key ≠ new.key) (h : Exclusive leases) :
    Exclusive (leases ++ [new]) ↔ Admits leases new := by
  constructor
  · intro hall a ha hresrc
    exact ⟨hall a (by simp [ha]) new (by simp) hresrc (hnew a ha),
      hall new (by simp) a (by simp [ha]) hresrc.symm (hnew a ha).symm⟩
  · intro hadmits a ha b hb hresrc hkey
    rw [List.mem_append, List.mem_singleton] at ha hb
    rcases ha with ha | rfl
    · rcases hb with hb | rfl
      · exact h a ha b hb hresrc hkey
      · exact (hadmits a ha hresrc).1
    · rcases hb with hb | rfl
      · exact (hadmits b hb hresrc.symm).2
      · exact absurd rfl hkey

lemma Exclusive.release [DecidableEq κ] (h : Exclusive leases) (key : κ) :
    Exclusive (release key leases) := by
  intro a ha b hb
  exact h a (mem_release.mp ha).1 b (mem_release.mp hb).1

lemma release_of_not_mem [DecidableEq κ] {key : κ} (h : ∀ a ∈ leases, a.key ≠ key) :
    release key leases = leases :=
  List.filter_eq_self.mpr fun a ha => by simpa using h a ha

/-- **A release** takes one lease from its resource and none from the others.

**Proof sketch.** Induction on the leases: the released one is the head, and then no other lease has
its key, or it is further behind. -/
theorem length_on_release [DecidableEq κ] [DecidableEq ρ]
    (hnodup : (leases.map key).Nodup) {a : Lease κ ρ} (ha : a ∈ leases) (resource : ρ) :
    (on leases resource).length =
      (on (release a.key leases) resource).length + if a.resource = resource then 1 else 0 := by
  induction leases with
  | nil => exact absurd ha List.not_mem_nil
  | cons b leases ih =>
    rw [List.map_cons, List.nodup_cons] at hnodup
    rcases List.mem_cons.mp ha with rfl | ha
    · have hrest : release a.key (a :: leases) = leases := by
        have hkept : ∀ b ∈ leases, b.key ≠ a.key := fun b hb hkey =>
          hnodup.1 (hkey ▸ List.mem_map_of_mem hb)
        rw [release, List.filter_cons_of_neg (by simp)]
        exact release_of_not_mem hkept
      rw [hrest, on, on, List.filter_cons]
      split_ifs with h h' h' <;> simp_all
    · have hne : b.key ≠ a.key := fun hkey => hnodup.1 (hkey ▸ List.mem_map_of_mem ha)
      have hrest : release a.key (b :: leases) = b :: release a.key leases := by
        rw [release, List.filter_cons_of_pos (by simpa using hne), release]
      have ih := ih hnodup.2 ha
      rw [hrest]
      unfold on at ih ⊢
      rw [List.filter_cons, List.filter_cons]
      by_cases hb : b.resource = resource
      · simp only [hb, decide_true, if_true, List.length_cons, ih]
        omega
      · simpa [hb] using ih

end Lease

/-! ### Tables with reservations -/

/-- **A table of leases** under numbers that are counted. A reserved lease is in the table and not
granted yet. -/
structure LeaseTable (ρ : Type*) where
  last : ℕ
  table : List (Lease ℕ ρ)
  reserved : List ℕ

namespace LeaseTable

open Lease

variable {ρ : Type*}

section

variable (t : LeaseTable ρ)

/-- The leases that are granted. -/
def granted : List (Lease ℕ ρ) := t.table.filter (·.key ∉ t.reserved)

/-- A lease is reserved under a new number. -/
def reserve (resource : ρ) (writes : Bool) : LeaseTable ρ where
  last := t.last + 1
  table := t.table ++ [⟨t.last + 1, resource, writes⟩]
  reserved := t.reserved ++ [t.last + 1]

/-- A reserved lease is granted. -/
def grant (key : ℕ) : LeaseTable ρ :=
  { t with reserved := t.reserved.erase key }

/-- A lease is removed from the table. -/
def remove (key : ℕ) : LeaseTable ρ :=
  { t with table := release key t.table }

end

/-- **The table is well formed**: a number is given once, and what is reserved is in the table. -/
structure WellFormed (t : LeaseTable ρ) : Prop where
  nodup : (t.table.map key).Nodup
  le_last : ∀ a ∈ t.table, a.key ≤ t.last
  reserved_nodup : t.reserved.Nodup
  reserved_mem : ∀ key ∈ t.reserved, ∃ a ∈ t.table, a.key = key

variable {t : LeaseTable ρ}

@[simp] lemma mem_granted {a : Lease ℕ ρ} : a ∈ t.granted ↔ a ∈ t.table ∧ a.key ∉ t.reserved := by
  simp [granted]

namespace WellFormed

section

variable (h : t.WellFormed)
include h

lemma eq_of_key {a b : Lease ℕ ρ} (ha : a ∈ t.table) (hb : b ∈ t.table)
    (hkey : a.key = b.key) : a = b :=
  List.inj_on_of_nodup_map h.nodup ha hb hkey

lemma granted_nodup : (t.granted.map key).Nodup :=
  h.nodup.sublist (List.filter_sublist.map key)

lemma last_succ_not_mem : t.last + 1 ∉ t.reserved := by
  intro hmem
  obtain ⟨a, ha, hkey⟩ := h.reserved_mem _ hmem
  have := h.le_last a ha
  omega

lemma reserve (resource : ρ) (writes : Bool) :
    (t.reserve resource writes).WellFormed where
  nodup := by
    have hnew : t.last + 1 ∉ t.table.map key := by
      intro hmem
      obtain ⟨a, ha, hkey⟩ := List.mem_map.mp hmem
      have := h.le_last a ha
      omega
    simpa [LeaseTable.reserve, List.nodup_append] using ⟨h.nodup, fun a ha hkey =>
      hnew (hkey ▸ List.mem_map_of_mem ha)⟩
  le_last := by
    intro a ha
    rcases List.mem_append.mp ha with ha | ha
    · exact Nat.le_succ_of_le (h.le_last a ha)
    · rw [List.mem_singleton.mp ha]
      exact Nat.le_refl _
  reserved_nodup := by
    simpa [LeaseTable.reserve, List.nodup_append] using
      ⟨h.reserved_nodup, fun key hkey heq => h.last_succ_not_mem (heq ▸ hkey)⟩
  reserved_mem := by
    intro key hkey
    rcases List.mem_append.mp hkey with hkey | hkey
    · obtain ⟨a, ha, rfl⟩ := h.reserved_mem key hkey
      exact ⟨a, List.mem_append_left _ ha, rfl⟩
    · exact ⟨⟨t.last + 1, resource, writes⟩, by simp [LeaseTable.reserve],
        (List.mem_singleton.mp hkey).symm⟩

lemma grant (key : ℕ) : (t.grant key).WellFormed where
  nodup := h.nodup
  le_last := h.le_last
  reserved_nodup := h.reserved_nodup.erase key
  reserved_mem other hother := h.reserved_mem other (List.mem_of_mem_erase hother)

lemma remove {key : ℕ} (hkey : key ∉ t.reserved) :
    (t.remove key).WellFormed where
  nodup := h.nodup.sublist (List.filter_sublist.map _)
  le_last a ha := h.le_last a (mem_release.mp ha).1
  reserved_nodup := h.reserved_nodup
  reserved_mem := by
    intro other hother
    obtain ⟨a, ha, rfl⟩ := h.reserved_mem other hother
    exact ⟨a, mem_release.mpr ⟨ha, fun heq => hkey (heq ▸ hother)⟩, rfl⟩

lemma granted_reserve (resource : ρ) (writes : Bool) :
    (t.reserve resource writes).granted = t.granted := by
  have hold : ∀ a ∈ t.table, a.key ≠ t.last + 1 := fun a ha heq => by
    have := h.le_last a ha
    omega
  unfold granted LeaseTable.reserve
  rw [List.filter_append, List.filter_cons_of_neg (by simp), List.filter_nil, List.append_nil]
  exact List.filter_congr fun a ha => by simp [hold a ha]

/-- **A grant** adds the lease to those that are granted. -/
theorem perm_granted_grant {a : Lease ℕ ρ} (ha : a ∈ t.table)
    (hresv : a.key ∈ t.reserved) : (t.grant a.key).granted.Perm (t.granted ++ [a]) := by
  have hnodup : t.table.Nodup := List.Nodup.of_map _ h.nodup
  have hnew : a ∉ t.granted := fun hmem => (mem_granted.mp hmem).2 hresv
  have hnodup' : (t.grant a.key).granted.Nodup := hnodup.filter _
  refine (List.perm_ext_iff_of_nodup hnodup' ?_).mpr fun b => ?_
  · exact List.nodup_append.mpr ⟨hnodup.filter _, List.nodup_singleton a,
      fun b hb c hc heq => hnew (List.mem_singleton.mp hc ▸ heq ▸ hb)⟩
  · rw [mem_granted, List.mem_append, List.mem_singleton, mem_granted]
    simp only [LeaseTable.grant, h.reserved_nodup.mem_erase_iff, not_and]
    constructor
    · rintro ⟨hb, hkey⟩
      by_cases hmem : b.key ∈ t.reserved
      · refine Or.inr (h.eq_of_key hb ha ?_)
        by_contra hne
        exact hkey hne hmem
      · exact Or.inl ⟨hb, hmem⟩
    · rintro (⟨hb, hmem⟩ | rfl)
      · exact ⟨hb, fun _ => hmem⟩
      · exact ⟨ha, fun hne => absurd rfl hne⟩

end

end WellFormed

/-- **A removal** releases the lease. -/
theorem granted_remove (t : LeaseTable ρ) (key : ℕ) :
    (t.remove key).granted = release key t.granted := by
  unfold granted remove release
  rw [List.filter_filter, List.filter_filter]
  exact List.filter_congr fun a _ => Bool.and_comm _ _

end LeaseTable
