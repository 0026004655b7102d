import Mathlib.Data.List.Basic

set_option autoImplicit false

/-!
# Case mappings

The Unicode mapping to upper case replaces each character by one or more characters. It is taken
as a structure that says what is relied on, so that a development does not depend on the tables of
one version of Unicode.

## Main definitions

* `CaseMapping`, `CaseMapping.toUpperCase`, `CaseMapping.ascii`.
-/

/-- **A mapping to upper case**: on ASCII the usual one, it deletes nothing, and what is in upper
case stays as it is. -/
structure CaseMapping where
  upper : Char → List Char
  upper_ascii : ∀ c : Char, c.toNat < 0x80 → upper c = [c.toUpper]
  upper_ne_nil : ∀ c : Char, upper c ≠ []
  upper_upper : ∀ c : Char, ∀ d ∈ upper c, upper d = [d]

namespace CaseMapping

variable (U : CaseMapping)

/-- Every character of the text is mapped. -/
def toUpperCase (cs : List Char) : List Char := cs.flatMap U.upper

@[simp] lemma toUpperCase_nil : U.toUpperCase [] = [] := rfl

lemma toUpperCase_append (cs ds : List Char) :
    U.toUpperCase (cs ++ ds) = U.toUpperCase cs ++ U.toUpperCase ds := List.flatMap_append

lemma toUpperCase_of_ascii {cs : List Char} (h : ∀ c ∈ cs, c.toNat < 0x80) :
    U.toUpperCase cs = cs.map Char.toUpper := by
  induction cs with
  | nil => rfl
  | cons c cs ih =>
    have hc := U.upper_ascii c (h c (by simp))
    have hcs := ih fun d hd => h d (by simp [hd])
    simp only [toUpperCase, List.flatMap_cons, hc, List.map_cons, List.cons_append,
      List.nil_append] at hcs ⊢
    rw [hcs]

/-- **A text in upper case** stays as it is. -/
theorem toUpperCase_idem (cs : List Char) :
    U.toUpperCase (U.toUpperCase cs) = U.toUpperCase cs := by
  have hfix : ∀ ds : List Char, (∀ d ∈ ds, U.upper d = [d]) → U.toUpperCase ds = ds := by
    intro ds hds
    induction ds with
    | nil => rfl
    | cons d ds ih =>
      have hd := hds d (by simp)
      have hrest := ih fun e he => hds e (by simp [he])
      simp only [toUpperCase, List.flatMap_cons, hd, List.cons_append, List.nil_append] at hrest ⊢
      rw [hrest]
  apply hfix
  intro d hd
  obtain ⟨c, -, hmem⟩ := List.mem_flatMap.mp hd
  exact U.upper_upper c d hmem

/-- **The beginning of a text in upper case** is in upper case. -/
theorem map_toUpper_of_append {cs ds : List Char} (hascii : ∀ c ∈ cs, c.toNat < 0x80)
    (h : U.toUpperCase (cs ++ ds) = cs ++ ds) :
    cs.map Char.toUpper = cs ∧ U.toUpperCase ds = ds := by
  rw [toUpperCase_append, toUpperCase_of_ascii U hascii] at h
  exact List.append_inj h (by simp)

lemma toUpper_toUpper (c : Char) : c.toUpper.toUpper = c.toUpper := by
  by_cases h : 'a'.val ≤ c.val ∧ c.val ≤ 'z'.val
  · have hpos : c.toUpper = _ := dif_pos h
    have hval : c.toUpper.val = c.val + ('A'.val - 'a'.val) := by rw [hpos]
    have hnot : ¬ ('a'.val ≤ c.toUpper.val ∧ c.toUpper.val ≤ 'z'.val) := by
      rw [hval]
      have hlow : (97 : ℕ) ≤ c.val.toNat := h.1
      have hhigh : c.val.toNat ≤ (122 : ℕ) := h.2
      intro hlower
      have hlower' : (97 : ℕ) ≤ (c.val + ('A'.val - 'a'.val)).toNat := hlower.1
      rw [UInt32.toNat_add, (by decide : ('A'.val - 'a'.val).toNat = 2 ^ 32 - 32)] at hlower'
      omega
    exact dif_neg hnot
  · have hfix : c.toUpper = c := dif_neg h
    rw [hfix, hfix]

/-- **The mapping of ASCII**: everything beyond stays as it is. -/
def ascii : CaseMapping where
  upper c := [c.toUpper]
  upper_ascii _ _ := rfl
  upper_ne_nil _ := by simp
  upper_upper c d hd := by
    rw [List.mem_singleton] at hd
    subst hd
    rw [toUpper_toUpper]

end CaseMapping
