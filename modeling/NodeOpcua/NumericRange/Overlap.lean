import NodeOpcua.NumericRange.Basic

set_option autoImplicit false

/-!
# The overlap of two numeric ranges

A value that is written at an index range is recorded for a monitored item when the range overlaps
the one of the item. The positions that a range selects are compared with the answer of
`NumericRange.overlap`.

## Main definitions

* `NumericRange.Valid`, `NumericRange.Selects`, `NumericRange.Comparable`.
-/

namespace NodeOpcua.NumericRange

open Number (Double lt ge maximum minimum strictEq)

/-- The ranges are of kinds that `overlap` compares. -/
def Comparable : NumericRange → NumericRange → Prop
  | .empty, _ | _, .empty => True
  | .singleValue _, .singleValue _ => True
  | .arrayRange _ _, .arrayRange _ _ => True
  | _, _ => False

variable {nr1 nr2 : NumericRange}

lemma Comparable.overlap_isSome (h : nr1.Comparable nr2) :
    ∃ b, overlap nr1 nr2 = some b := by
  cases nr1 <;> cases nr2 <;> first | exact ⟨_, rfl⟩ | exact h.elim

lemma comparable_of_overlap {b : Bool} (h : overlap nr1 nr2 = some b) :
    nr1.Comparable nr2 := by
  cases nr1 <;> cases nr2 <;> trivial

/-- The bound is the index `i`. -/
def IsBound (bound : Number) (i : ℕ) : Prop := ∃ x : Double, bound = .finite x ∧ x.val = i

/-- `i` is in the dimension from `low` to `high`. -/
def InDimension (low high : Number) (i : ℕ) : Prop :=
  ∃ l h, IsBound low l ∧ IsBound high h ∧ l ≤ i ∧ i ≤ h

/-- **A valid range**: its bounds are integers from 0, and increase. A dimension of a matrix may
be a single index. -/
def Valid : NumericRange → Prop
  | .empty => True
  | .singleValue value => ∃ i, IsBound value i
  | .arrayRange low high => ∃ l h, IsBound low l ∧ IsBound high h ∧ l < h
  | .matrixRange (.bounds low high) (colLow, colHigh) =>
    (∃ i, InDimension low high i) ∧ ∃ j, InDimension colLow colHigh j
  | .matrixRange .refused _ | .invalidRange _ => False

/-- **The positions that a range selects**, an index for each dimension. -/
def Selects : NumericRange → List ℕ → Prop
  | .empty, _ => True
  | .singleValue value, p => ∃ i, p = [i] ∧ IsBound value i
  | .arrayRange low high, p => ∃ i, p = [i] ∧ InDimension low high i
  | .matrixRange (.bounds low high) (colLow, colHigh), p =>
    ∃ i j, p = [i, j] ∧ InDimension low high i ∧ InDimension colLow colHigh j
  | .matrixRange .refused _, _ | .invalidRange _, _ => False

lemma IsBound.unique {bound : Number} {i j : ℕ} (hi : IsBound bound i) (hj : IsBound bound j) :
    i = j := by
  obtain ⟨x, rfl, hx⟩ := hi
  obtain ⟨y, hy, hyj⟩ := hj
  cases hy
  exact_mod_cast hx.symm.trans hyj

lemma IsBound.eq {a b : Number} {i : ℕ} (ha : IsBound a i) (hb : IsBound b i) : a = b := by
  obtain ⟨⟨x, hdouble⟩, rfl, hx⟩ := ha
  obtain ⟨⟨y, hdouble'⟩, rfl, hy⟩ := hb
  obtain rfl : x = y := hx.trans hy.symm
  rfl

lemma Valid.selects {nr : NumericRange} (h : nr.Valid) : ∃ p, nr.Selects p := by
  match nr with
  | .empty => exact ⟨[], trivial⟩
  | .singleValue _ =>
    obtain ⟨i, hi⟩ := h
    exact ⟨[i], i, rfl, hi⟩
  | .arrayRange _ _ =>
    obtain ⟨l, u, hl, hu, hlt⟩ := h
    exact ⟨[l], l, rfl, l, u, hl, hu, le_rfl, hlt.le⟩
  | .matrixRange (.bounds _ _) (_, _) =>
    obtain ⟨⟨i, hi⟩, j, hj⟩ := h
    exact ⟨[i, j], i, j, rfl, hi, hj⟩
  | .matrixRange .refused _ | .invalidRange _ => exact h.elim

lemma singleValue_overlap {a b : Number} {i j : ℕ} (ha : IsBound a i) (hb : IsBound b j) :
    strictEq a b = true ↔ ∃ p, Selects (.singleValue a) p ∧ Selects (.singleValue b) p := by
  have hnan : a ≠ .nan := by
    obtain ⟨x, rfl, -⟩ := ha
    simp
  simp only [strictEq, Bool.and_eq_true, decide_eq_true_eq]
  constructor
  · rintro ⟨-, rfl⟩
    exact ⟨[i], ⟨i, rfl, ha⟩, i, rfl, ha⟩
  · rintro ⟨p, ⟨k, rfl, hk⟩, k', hp, hk'⟩
    cases hp
    exact ⟨hnan, hk.eq hk'⟩

/-- **The test of the bounds**, at the indexes that they are. -/
lemma overlap_bounds {l1 h1 l2 h2 : Number} {a b c d : ℕ} (hl1 : IsBound l1 a)
    (hh1 : IsBound h1 b) (hl2 : IsBound l2 c) (hh2 : IsBound h2 d) :
    _overlap l1 h1 l2 h2 = true ↔ max a c ≤ min b d := by
  obtain ⟨x, rfl, hx⟩ := hl1
  obtain ⟨y, rfl, hy⟩ := hh1
  obtain ⟨z, rfl, hz⟩ := hl2
  obtain ⟨w, rfl, hw⟩ := hh2
  simp only [_overlap, maximum, minimum, lt, hx, hy, hz, hw, reduceCtorEq, decide_false,
    Bool.or_self, Bool.false_eq_true, if_false, decide_eq_true_eq, Nat.cast_lt]
  split_ifs <;> simp [ge, lt, hx, hy, hz, hw] <;> omega

lemma arrayRange_overlap {l1 h1 l2 h2 : Number} (hv1 : Valid (.arrayRange l1 h1))
    (hv2 : Valid (.arrayRange l2 h2)) :
    _overlap l1 h1 l2 h2 = true ↔
      ∃ p, Selects (.arrayRange l1 h1) p ∧ Selects (.arrayRange l2 h2) p := by
  obtain ⟨a, b, ha, hb, hab⟩ := hv1
  obtain ⟨c, d, hc, hd, hcd⟩ := hv2
  rw [overlap_bounds ha hb hc hd]
  constructor
  · intro h
    refine ⟨[max a c], ⟨_, rfl, a, b, ha, hb, ?_⟩, _, rfl, c, d, hc, hd, ?_⟩ <;> omega
  · rintro ⟨p, ⟨i, rfl, a', b', ha', hb', hi⟩, j, hp, c', d', hc', hd', hj⟩
    cases hp
    obtain rfl := ha.unique ha'
    obtain rfl := hb.unique hb'
    obtain rfl := hc.unique hc'
    obtain rfl := hd.unique hd'
    omega

/-- **Exact overlap**: there is an answer, the same in both orders, and it is whether some position
is selected by both ranges. -/
def OverlapExact (nr1 nr2 : NumericRange) : Prop :=
  ∃ b, overlap nr1 nr2 = some b ∧ overlap nr2 nr1 = some b ∧
    (b = true ↔ ∃ p, nr1.Selects p ∧ nr2.Selects p)

/-- **The overlap of valid ranges** is exact when one is empty, or both are single values, or both
are array ranges, and there is no answer otherwise. -/
theorem overlap_exact_iff (nr1 nr2 : NumericRange) (h1 : nr1.Valid) (h2 : nr2.Valid) :
    OverlapExact nr1 nr2 ↔ nr1.Comparable nr2 := by
  constructor
  · rintro ⟨b, hb, -⟩
    exact comparable_of_overlap hb
  intro hcmp
  cases nr1 with
  | empty =>
    obtain ⟨p, hp⟩ := h2.selects
    exact ⟨true, rfl, by cases nr2 <;> rfl, by simpa using ⟨p, trivial, hp⟩⟩
  | singleValue a =>
    cases nr2 with
    | empty => exact ⟨true, rfl, rfl, by simpa using h1.selects.imp fun p hp => ⟨hp, trivial⟩⟩
    | singleValue b =>
      obtain ⟨i, hi⟩ := h1
      obtain ⟨j, hj⟩ := h2
      refine ⟨strictEq a b, rfl, congrArg some ?_, singleValue_overlap hi hj⟩
      exact Bool.eq_iff_iff.mpr
        ((singleValue_overlap hj hi).trans ((exists_congr fun _ => and_comm).trans
          (singleValue_overlap hi hj).symm))
    | _ => exact hcmp.elim
  | arrayRange l1 u1 =>
    cases nr2 with
    | empty => exact ⟨true, rfl, rfl, by simpa using h1.selects.imp fun p hp => ⟨hp, trivial⟩⟩
    | arrayRange l2 u2 =>
      refine ⟨_overlap l1 u1 l2 u2, rfl, congrArg some ?_, arrayRange_overlap h1 h2⟩
      exact Bool.eq_iff_iff.mpr
        ((arrayRange_overlap h2 h1).trans ((exists_congr fun _ => and_comm).trans
          (arrayRange_overlap h1 h2).symm))
    | _ => exact hcmp.elim
  | matrixRange row col =>
    cases nr2 with
    | empty => exact ⟨true, rfl, rfl, by simpa using h1.selects.imp fun p hp => ⟨hp, trivial⟩⟩
    | _ => exact hcmp.elim
  | invalidRange _ => exact h1.elim

/-- Two ranges that touch at the index 2. -/
theorem overlap_exact_touching :
    OverlapExact (.arrayRange (.ofNat 1) (.ofNat 2)) (.arrayRange (.ofNat 2) (.ofNat 5)) :=
  (overlap_exact_iff (.arrayRange _ _) (.arrayRange _ _)
    ⟨1, 2, Number.ofNat_exact (by norm_num), Number.ofNat_exact (by norm_num), by omega⟩
    ⟨2, 5, Number.ofNat_exact (by norm_num), Number.ofNat_exact (by norm_num), by omega⟩).mpr trivial

/-- **A single index and an array range** that holds it are not compared. -/
theorem overlap_not_exact :
    ¬ ∀ nr1 nr2 : NumericRange, nr1.Valid → nr2.Valid → OverlapExact nr1 nr2 := by
  intro h
  obtain ⟨b, hb, -⟩ := h (.singleValue (.ofNat 3)) (.arrayRange (.ofNat 1) (.ofNat 5))
    ⟨3, Number.ofNat_exact (by norm_num)⟩
    ⟨1, 5, Number.ofNat_exact (by norm_num), Number.ofNat_exact (by norm_num), by omega⟩
  cases hb

end NodeOpcua.NumericRange
