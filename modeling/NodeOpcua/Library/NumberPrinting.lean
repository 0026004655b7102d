import Mathlib.Tactic.Ring
import NodeOpcua.Library.Number

set_option autoImplicit false

/-!
# Which numbers are printed as digits

A natural number below `10 ^ 21` is printed as the digits that are read back as it. Every other
number has a sign, a letter or a decimal point in its string.

## Main definitions

* `Number.IsIndex`.

## Main results

* `Number.shortest_isSome`.
* `Number.toChars_index`, `Number.toChars_not_index`, `Number.length_toChars_le`.
-/

namespace Number

/-- **A natural number below** `10 ^ 21`. -/
def IsIndex (v : Number) : Prop := ∃ x : Double, v = finite x ∧ ∃ m : ℕ, x.val = m ∧ m < 10 ^ 21

variable {v : Number}

lemma IsIndex.ne_nan (h : IsIndex v) : v ≠ nan := by
  obtain ⟨x, rfl, -⟩ := h
  simp

lemma IsIndex.isFinite (h : IsIndex v) : v.isFinite = true := by
  obtain ⟨x, rfl, -⟩ := h
  rfl

lemma IsIndex.not_neg (h : IsIndex v) : lt v (ofNat 0) = false := by
  obtain ⟨x, rfl, m, hm, -⟩ := h
  obtain ⟨zero, hzero, hval⟩ := ofNat_exact (n := 0) (by norm_num)
  rw [hzero]
  simp [lt, hval, hm]

/-! ### The search for the shortest string -/

lemma lt_pointPosition (x : ℚ) : x < 10 ^ pointPosition x := by
  simpa [pointPosition] using Int.lt_zpow_succ_log_self (R := ℚ) (b := 10) (by norm_num) x

variable {x : ℚ}

lemma roundDouble_significand {k s : ℕ} (h : significand x k = some s) :
    roundDouble (s * 10 ^ (pointPosition x - k)) = x := by
  simpa using List.find?_some h

lemma shortest_eq_some {k : ℕ} (h : shortest x = some k) :
    (∃ s, significand x k = some s) ∧ ∀ j, 1 ≤ j → (significand x j).isSome → k ≤ j := by
  obtain ⟨hk, -, hmin⟩ := List.find?_range'_eq_some.mp h
  refine ⟨Option.isSome_iff_exists.mp hk, fun j hj hsome => ?_⟩
  by_contra hlt
  have := hmin j hj (by omega)
  simp [hsome] at this

/-- A number whose digits end at the `k`-th one has a significand of `k` digits. -/
lemma significand_isSome {k N : ℕ} (hround : roundDouble x = x)
    (hN : x * 10 ^ ((k : ℤ) - pointPosition x) = N) : (significand x k).isSome := by
  have hx : (N : ℚ) * 10 ^ (pointPosition x - k) = x := by
    rw [← hN, mul_assoc, ← zpow_add₀ (by norm_num)]
    simp
  have hfirst : (roundHalfEven (N : ℚ)).toNat = N := by
    have := roundHalfEven_intCast N
    push_cast at this
    rw [this]
    rfl
  unfold significand
  rw [List.find?_isSome]
  refine ⟨N, ?_, by rw [hx, hround]; simp⟩
  simp [candidates, hN, hfirst]

lemma exists_natCast_mul_pow (hx : 0 < x) (hround : roundDouble x = x) {d : ℕ}
    (hd : 1074 ≤ d) : ∃ N : ℕ, x * 10 ^ (d : ℤ) = N := by
  obtain ⟨hpos, -, hlast⟩ := roundDouble_bits hx
  obtain ⟨q, hq⟩ := Int.eq_ofNat_of_zero_le hpos
  obtain ⟨t, ht⟩ := Int.eq_ofNat_of_zero_le (a := lastBit x + d) (by omega)
  refine ⟨q * 2 ^ t * 5 ^ d, ?_⟩
  have hten : (10 : ℚ) ^ (d : ℤ) = 2 ^ (d : ℤ) * 5 ^ d := by
    rw [zpow_natCast, zpow_natCast, ← mul_pow]
    norm_num
  calc x * 10 ^ (d : ℤ) = roundDouble x * 10 ^ (d : ℤ) := by rw [hround]
    _ = q * (2 ^ lastBit x * 2 ^ (d : ℤ)) * 5 ^ d := by
      rw [roundDouble, hq, hten]
      push_cast
      ring
    _ = q * 2 ^ (t : ℤ) * 5 ^ d := by rw [← zpow_add₀ (by norm_num), ht]
    _ = ((q * 2 ^ t * 5 ^ d : ℕ) : ℚ) := by
      push_cast
      rw [zpow_natCast]

lemma pointPosition_le (hx : 0 < x) (hlt : x < 2 ^ 1024) : pointPosition x ≤ 1024 := by
  have h : x < ((10 : ℕ) : ℚ) ^ (1024 : ℤ) := by
    refine hlt.trans_le ?_
    have := pow_le_pow_left₀ (by norm_num : (0 : ℚ) ≤ 2) (by norm_num : (2 : ℚ) ≤ 10) 1024
    exact_mod_cast this
  have := (Int.lt_zpow_iff_log_lt (by norm_num) hx).mp h
  unfold pointPosition
  omega

/-- **Every positive double has a decimal string**, of at most 2098 digits. -/
theorem shortest_isSome (hx : 0 < x) (hround : roundDouble x = x) (hlt : x < 2 ^ 1024) :
    (shortest x).isSome := by
  have hpoint := pointPosition_le hx hlt
  obtain ⟨d, hd⟩ := Int.eq_ofNat_of_zero_le
    (a := 1074 + max (pointPosition x) 1 - pointPosition x) (by omega)
  obtain ⟨N, hN⟩ := exists_natCast_mul_pow hx hround (d := d) (by omega)
  unfold shortest
  rw [List.find?_isSome]
  refine ⟨(1074 + max (pointPosition x) 1).toNat, ?_, significand_isSome (N := N) hround ?_⟩
  · rw [List.mem_range'_1]
    omega
  · rw [← hN, ← hd]
    congr 2
    omega

/-! ### The forms of a printed number -/

/-- A character that no list of indexes has. -/
def IsOther (c : Char) : Prop := ¬ (c.isDigit ∨ c = ':' ∨ c = ',')

lemma formatDigits_integer {s k : ℕ} {n : ℤ} (hk : k ≤ n) (hn : n ≤ 21) :
    formatDigits s k n = Nat.toDigits 10 s ++ List.replicate (n - k).toNat '0' := by
  simp [formatDigits, hk, hn]

lemma formatDigits_other {s k : ℕ} {n : ℤ} (h : ¬ (k ≤ n ∧ n ≤ 21)) :
    ∃ c ∈ formatDigits s k n, IsOther c := by
  unfold formatDigits
  split_ifs
  · exact ⟨'.', by simp, by simp [IsOther]⟩
  · exact ⟨'.', by simp, by simp [IsOther]⟩
  all_goals exact ⟨'e', by simp, by simp [IsOther]⟩

lemma ofDigitChars_integer (s z : ℕ) :
    Nat.ofDigitChars 10 (Nat.toDigits 10 s ++ List.replicate z '0') 0 = s * 10 ^ z := by
  rw [Nat.ofDigitChars_append, Nat.ofDigitChars_ten_toDigits, Nat.ofDigitChars_replicate_zero,
    mul_comm]

lemma isDigit_integer {s z : ℕ} {c : Char}
    (hc : c ∈ Nat.toDigits 10 s ++ List.replicate z '0') : c.isDigit := by
  rcases List.mem_append.mp hc with hc | hc
  · exact Nat.isDigit_of_mem_toDigits (by norm_num) (by norm_num) hc
  · rw [List.eq_of_mem_replicate hc]
    rfl

lemma pointPosition_index {m : ℕ} (hpos : 0 < m) (hm : m < 10 ^ 21) :
    1 ≤ pointPosition m ∧ pointPosition m ≤ 21 := by
  have hx : (0 : ℚ) < m := by exact_mod_cast hpos
  have hlt : (m : ℚ) < ((10 : ℕ) : ℚ) ^ (21 : ℤ) := by exact_mod_cast hm
  have hge : ((10 : ℕ) : ℚ) ^ (0 : ℤ) ≤ m := by
    exact_mod_cast hpos
  have := (Int.lt_zpow_iff_log_lt (by norm_num) hx).mp hlt
  have := (Int.zpow_le_iff_le_log (by norm_num) hx).mp hge
  unfold pointPosition
  omega

lemma shortest_index {m k : ℕ} (hpos : 0 < m) (hm : m < 10 ^ 21)
    (hround : roundDouble (m : ℚ) = m) (hk : shortest (m : ℚ) = some k) :
    k ≤ pointPosition (m : ℚ) := by
  have hpoint := pointPosition_index hpos hm
  obtain ⟨j, hj⟩ := Int.eq_ofNat_of_zero_le (a := pointPosition (m : ℚ)) (by omega)
  have hsome : (significand (m : ℚ) j).isSome :=
    significand_isSome (N := m) hround (by simp [hj])
  have := (shortest_eq_some hk).2 j (by omega) hsome
  omega

lemma roundDouble_ten_pow : roundDouble (10 ^ (21 : ℤ)) = 10 ^ (21 : ℤ) := by
  have h := roundDouble_eq_self (m := 5 ^ 21) (e := 21) (by norm_num) (by norm_num) (by norm_num)
  have hten : ((5 ^ 21 : ℤ) : ℚ) * 2 ^ (21 : ℤ) = 10 ^ (21 : ℤ) := by norm_num
  rwa [hten] at h

/-- **What a positive double is printed as**: digits with a decimal point somewhere, which rounding
takes to the number. The point is after the digits when the number is an index. -/
lemma positiveToChars_cases (hx : 0 < x) (hround : roundDouble x = x) (hlt : x < 2 ^ 1024) :
    ∃ s k : ℕ, ∃ n : ℤ, positiveToChars x = formatDigits s k n ∧ x < 10 ^ n ∧
      roundDouble (s * 10 ^ (n - k)) = x ∧
      ∀ m : ℕ, x = m → m < 10 ^ 21 → k ≤ n ∧ n ≤ 21 := by
  obtain ⟨k, hk⟩ := Option.isSome_iff_exists.mp (shortest_isSome hx hround hlt)
  obtain ⟨s, hs⟩ := (shortest_eq_some hk).1
  have hvalue := roundDouble_significand hs
  unfold positiveToChars
  simp only [hk, hs]
  split_ifs with hpow
  · -- a power of ten is one digit, one place further
    have hten : (s : ℚ) * 10 ^ (pointPosition x - k) = 10 ^ pointPosition x := by
      rw [hpow]
      push_cast
      rw [← zpow_natCast, ← zpow_add₀ (by norm_num)]
      congr 1
      omega
    rw [hten] at hvalue
    refine ⟨1, 1, pointPosition x + 1, rfl, ?_, by simpa using hvalue, ?_⟩
    · exact (lt_pointPosition x).trans (zpow_lt_zpow_right₀ (by norm_num) (by omega))
    · rintro m rfl hm
      have hpoint := pointPosition_index (by exact_mod_cast hx) hm
      have hne : pointPosition (m : ℚ) ≠ 21 := by
        intro h
        rw [h, roundDouble_ten_pow] at hvalue
        have : (m : ℚ) < 10 ^ (21 : ℤ) := by exact_mod_cast hm
        exact absurd hvalue this.ne'
      omega
  · refine ⟨s, k, pointPosition x, rfl, lt_pointPosition x, hvalue, ?_⟩
    rintro m rfl hm
    have hpos : 0 < m := by exact_mod_cast hx
    exact ⟨shortest_index hpos hm hround hk, (pointPosition_index hpos hm).2⟩

/-! ### The decimal strings of indexes and of other numbers -/

/-- **An index is printed as digits**, which are read as the index. -/
theorem toChars_index (h : IsIndex v) :
    toChars v ≠ [] ∧ (∀ c ∈ toChars v, c.isDigit) ∧
      ofNat (Nat.ofDigitChars 10 (toChars v) 0) = v := by
  obtain ⟨x, rfl, m, hxm, hm⟩ := h
  have hofNat : ∀ N : ℕ, roundDouble N = x.val → ofNat N = finite x := by
    intro N hN
    obtain ⟨val, hdouble⟩ := x
    have hlt : roundDouble N < 2 ^ 1024 := by
      rw [hN]
      rcases hdouble with rfl | ⟨-, habs⟩
      · norm_num
      · exact (le_abs_self _).trans_lt habs
    simp [ofNat, hN, hN ▸ hlt]
  have hx0 : 0 ≤ x.val := by
    rw [hxm]
    positivity
  rcases hx0.eq_or_lt with hzero | hpos
  · rw [toChars_zero hzero.symm]
    refine ⟨by simp, by simp, hofNat 0 ?_⟩
    rw [← hzero]
    simp
  · obtain ⟨hround, hlt⟩ : roundDouble x.val = x.val ∧ x.val < 2 ^ 1024 := by
      simpa [abs_of_pos hpos] using x.isDouble.resolve_left hpos.ne'
    obtain ⟨s, k, n, hchars, -, hvalue, hindex⟩ := positiveToChars_cases hpos hround hlt
    obtain ⟨hk, hn⟩ := hindex m hxm hm
    have hform : toChars (finite x) =
        Nat.toDigits 10 s ++ List.replicate (n - k).toNat '0' := by
      rw [toChars_pos hpos, hchars, formatDigits_integer hk hn]
    rw [hform]
    refine ⟨by simp, fun c hc => isDigit_integer hc, ?_⟩
    rw [ofDigitChars_integer]
    refine hofNat _ ?_
    rw [← hvalue]
    obtain ⟨z, hz⟩ := Int.eq_ofNat_of_zero_le (sub_nonneg.mpr hk)
    rw [hz]
    simp

/-- **Any other number has a character that is no digit**, and no colon or comma. -/
theorem toChars_not_index (h : ¬ IsIndex v) : ∃ c ∈ toChars v, IsOther c := by
  match v with
  | nan => exact ⟨'N', by simp [toChars], by simp [IsOther]⟩
  | infinity false => exact ⟨'I', by simp [toChars], by simp [IsOther]⟩
  | infinity true => exact ⟨'-', by simp [toChars], by simp [IsOther]⟩
  | finite x =>
    rcases lt_trichotomy x.val 0 with hneg | hzero | hpos
    · exact ⟨'-', by simp [toChars_neg hneg], by simp [IsOther]⟩
    · exact absurd ⟨x, rfl, 0, by simpa using hzero, by norm_num⟩ h
    · obtain ⟨hround, hlt⟩ : roundDouble x.val = x.val ∧ x.val < 2 ^ 1024 := by
        simpa [abs_of_pos hpos] using x.isDouble.resolve_left hpos.ne'
      obtain ⟨s, k, n, hchars, hbound, hvalue, -⟩ := positiveToChars_cases hpos hround hlt
      rw [toChars_pos hpos, hchars]
      refine formatDigits_other fun ⟨hk, hn⟩ => h ?_
      -- an integer is rounded to an integer
      obtain ⟨z, hz⟩ := Int.eq_ofNat_of_zero_le (sub_nonneg.mpr hk)
      have hcast : (s : ℚ) * 10 ^ (n - k) = ((s * 10 ^ z : ℕ) : ℚ) := by
        rw [hz]
        simp
      rw [hcast] at hvalue
      have hN : 0 < s * 10 ^ z := by
        rcases (s * 10 ^ z).eq_zero_or_pos with h0 | hN
        · rw [h0] at hvalue
          simp at hvalue
          exact absurd hvalue hpos.ne
        · exact hN
      obtain ⟨m, hm⟩ := exists_roundDouble_natCast _ hN
      refine ⟨x, rfl, m, by rw [← hvalue, hm], ?_⟩
      have hlt : (m : ℚ) < 10 ^ (21 : ℤ) := by
        rw [← hm, hvalue]
        exact hbound.trans_le (zpow_le_zpow_right₀ (by norm_num) hn)
      exact_mod_cast hlt

/-! ### The length of a printed number -/

/-- A significand of `k` digits is at most the power of ten. -/
lemma significand_le {k s : ℕ} (h : significand x k = some s) : s ≤ 10 ^ k := by
  have hmem := List.mem_of_find?_eq_some h
  have hy : x * 10 ^ ((k : ℤ) - pointPosition x) ≤ ((10 ^ k : ℕ) : ℚ) := by
    have := mul_le_mul_of_nonneg_right (lt_pointPosition x).le
      (by positivity : (0 : ℚ) ≤ 10 ^ ((k : ℤ) - pointPosition x))
    rw [← zpow_add₀ (by norm_num)] at this
    simpa using this
  have hround := roundHalfEven_le (m := (10 ^ k : ℕ)) (by exact_mod_cast hy)
  have hfloor : ⌊x * 10 ^ ((k : ℤ) - pointPosition x)⌋₊ ≤ 10 ^ k := Nat.floor_le_of_le hy
  have hceil : ⌈x * 10 ^ ((k : ℤ) - pointPosition x)⌉₊ ≤ 10 ^ k := Nat.ceil_le.mpr hy
  simp only [candidates, List.mem_cons, List.not_mem_nil, or_false] at hmem
  rcases hmem with rfl | rfl | rfl
  · omega
  · exact hfloor
  · exact hceil

lemma length_formatDigits_le {s k : ℕ} {n : ℤ} (hs : s ≤ 10 ^ k) (hn : (n - 1).natAbs < 10 ^ 4) :
    (formatDigits s k n).length ≤ k + 40 := by
  have hdigits : (Nat.toDigits 10 s).length ≤ k + 1 := by
    rw [Nat.length_toDigits_le_iff (by norm_num) (by omega)]
    exact hs.trans_lt (Nat.pow_lt_pow_right (by norm_num) (by omega))
  have hexp : (Nat.toDigits 10 (n - 1).natAbs).length ≤ 4 :=
    (Nat.length_toDigits_le_iff (by norm_num) (by norm_num)).mpr hn
  unfold formatDigits
  split_ifs <;> simp <;> omega

lemma le_pointPosition (hx : 0 < x) (hround : roundDouble x = x) :
    -1074 ≤ pointPosition x := by
  obtain ⟨N, hN⟩ := exists_natCast_mul_pow hx hround (d := 1074) le_rfl
  have hone : (1 : ℚ) ≤ N := by
    have hpos : (0 : ℚ) < N := by
      rw [← hN]
      positivity
    exact_mod_cast hpos
  have hge : ((10 : ℕ) : ℚ) ^ (-1074 : ℤ) ≤ x := by
    rw [← hN] at hone
    rw [zpow_neg, inv_le_iff_one_le_mul₀ (by positivity)]
    exact_mod_cast hone
  have := (Int.zpow_le_iff_le_log (by norm_num) hx).mp hge
  unfold pointPosition
  omega

lemma length_positiveToChars_le (hx : 0 < x) (hround : roundDouble x = x)
    (hlt : x < 2 ^ 1024) : (positiveToChars x).length ≤ 2200 := by
  have hpoint := pointPosition_le hx hlt
  have hpoint' := le_pointPosition hx hround
  obtain ⟨k, hk⟩ := Option.isSome_iff_exists.mp (shortest_isSome hx hround hlt)
  obtain ⟨s, hs⟩ := (shortest_eq_some hk).1
  have hkle : k ≤ 2098 := by
    have := (List.find?_range'_eq_some.mp hk).2.1
    rw [List.mem_range'_1] at this
    omega
  unfold positiveToChars
  simp only [hk, hs]
  split_ifs
  · have := length_formatDigits_le (s := 1) (k := 1) (n := pointPosition x + 1) (by norm_num)
      (by omega)
    omega
  · have := length_formatDigits_le (n := pointPosition x) (significand_le hs) (by omega)
    omega

/-- **A printed number is short.** -/
theorem length_toChars_le (v : Number) : (toChars v).length ≤ 2201 := by
  match v with
  | nan | infinity false | infinity true => simp [toChars]
  | finite x =>
    rcases lt_trichotomy x.val 0 with hneg | hzero | hpos
    · obtain ⟨hround, hlt⟩ := x.isDouble.of_neg hneg
      have := length_positiveToChars_le (neg_pos.mpr hneg) hround hlt
      rw [toChars_neg hneg, List.length_cons]
      omega
    · simp [toChars_zero hzero]
    · obtain ⟨hround, hlt⟩ := x.isDouble.of_pos hpos
      have := length_positiveToChars_le hpos hround hlt
      rw [toChars_pos hpos]
      omega

end Number
