import NodeOpcua.Library.Number

set_option autoImplicit false

/-!
# Arithmetic of numbers

Sums, differences, products and quotients of numbers are the nearest numbers to the exact results.

## Main definitions

* `Number.ofRational`, `Number.add`, `Number.sub`, `Number.mul`, `Number.div`, `Number.abs`,
  `Number.trunc`, `Number.extended`.

## Main results

* `Number.extended_ofRational_mono`, `Number.ofRational_double`, `Number.ofInt_exact`,
  `Number.trunc_mono`.
-/

namespace Number

/-! ### The operations -/

/-- **The nearest number** to a rational number. -/
def ofRational (x : ℚ) : Number := if x < 0 then neg (ofRat (-x)) else ofRat x

/-- `x + y`. -/
def add : Number → Number → Number
  | finite x, finite y => ofRational (x.val + y.val)
  | infinity a, infinity b => if a = b then infinity a else nan
  | infinity a, finite _ => infinity a
  | finite _, infinity b => infinity b
  | _, _ => nan

/-- `x - y`. -/
def sub (x y : Number) : Number := add x (neg y)

/-- `x * y`. -/
def mul : Number → Number → Number
  | finite x, finite y => ofRational (x.val * y.val)
  | infinity a, infinity b => infinity (a != b)
  | infinity a, finite y => if y.val = 0 then nan else infinity (a != decide (y.val < 0))
  | finite x, infinity b => if x.val = 0 then nan else infinity (b != decide (x.val < 0))
  | _, _ => nan

/-- `x / y`, where 0 is positive. -/
def div : Number → Number → Number
  | finite x, finite y =>
    if y.val = 0 then if x.val = 0 then nan else infinity (x.val < 0)
    else ofRational (x.val / y.val)
  | infinity a, finite y => infinity (a != decide (y.val < 0))
  | finite _, infinity _ => ofNat 0
  | _, _ => nan

/-- **The integer part** of a number, as dates take it. -/
def trunc : Number → ℤ
  | finite x => if x.val < 0 then ⌈x.val⌉ else ⌊x.val⌋
  | _ => 0

/-! ### Rounding keeps the order -/

lemma roundHalfEven_mono {y z : ℚ} (h : y ≤ z) : roundHalfEven y ≤ roundHalfEven z := by
  rcases (Int.floor_mono h).eq_or_lt with hfloor | hfloor
  · unfold roundHalfEven
    rw [hfloor]
    split_ifs with hy hz hz
    · exact le_rfl
    · refine absurd ?_ hz
      rcases hy with hy | ⟨hy, hodd⟩
      · exact Or.inl (by linarith)
      · rcases h.eq_or_lt with rfl | hlt
        · exact Or.inr ⟨hy, hodd⟩
        · exact Or.inl (by linarith)
    · omega
    · exact le_rfl
  · calc roundHalfEven y ≤ ⌊y⌋ + 1 := roundHalfEven_le (by exact_mod_cast (Int.lt_floor_add_one y).le)
      _ ≤ ⌊z⌋ := hfloor
      _ ≤ roundHalfEven z := le_roundHalfEven (Int.floor_le z)

variable {x y : ℚ}

lemma lastBit_mono (hx : 0 < x) (h : x ≤ y) : lastBit x ≤ lastBit y := by
  have := Int.log_mono_right (b := 2) hx h
  unfold lastBit
  omega

/-- **Rounding keeps the order** of positive numbers: when the last bits differ there is a power of
two between the numbers. -/
lemma roundDouble_mono (hx : 0 < x) (h : x ≤ y) : roundDouble x ≤ roundDouble y := by
  rcases (lastBit_mono hx h).eq_or_lt with hlast | hlast
  · unfold roundDouble
    rw [hlast]
    have hle : x / 2 ^ lastBit y ≤ y / 2 ^ lastBit y := by gcongr
    have hround : (roundHalfEven (x / 2 ^ lastBit y) : ℚ) ≤ roundHalfEven (y / 2 ^ lastBit y) := by
      exact_mod_cast roundHalfEven_mono hle
    gcongr
  · have hy : 0 < y := hx.trans_le h
    have hlog : lastBit y = Int.log 2 y - 52 := by
      unfold lastBit at *
      omega
    have hpow : (2 : ℚ) ^ lastBit y * 2 ^ (52 : ℤ) = 2 ^ Int.log 2 y := by
      rw [← zpow_add₀ (by norm_num), hlog, sub_add_cancel]
    -- the smaller number is rounded to at most this power of two
    have hxlt : x < 2 ^ Int.log 2 y := by
      refine (Int.lt_zpow_succ_log_self (R := ℚ) (b := 2) (by norm_num) x).trans_le ?_
      refine zpow_le_zpow_right₀ (by norm_num) ?_
      unfold lastBit at *
      omega
    obtain ⟨d, hd⟩ := Int.eq_ofNat_of_zero_le (sub_nonneg.mpr hlast.le)
    have hpow' : ((2 ^ d * 2 ^ 52 : ℤ) : ℚ) * 2 ^ lastBit x = 2 ^ Int.log 2 y := by
      rw [← hpow, show lastBit y = lastBit x + d by omega, zpow_add₀ (by norm_num), zpow_natCast]
      push_cast
      ring
    have hxround : roundDouble x ≤ 2 ^ Int.log 2 y := by
      have hbits : x / 2 ^ lastBit x ≤ ((2 ^ d * 2 ^ 52 : ℤ) : ℚ) := by
        rw [div_le_iff₀ (by positivity), hpow']
        exact hxlt.le
      have hround : (roundHalfEven (x / 2 ^ lastBit x) : ℚ) ≤ ((2 ^ d * 2 ^ 52 : ℤ) : ℚ) := by
        exact_mod_cast roundHalfEven_le hbits
      calc roundDouble x ≤ ((2 ^ d * 2 ^ 52 : ℤ) : ℚ) * 2 ^ lastBit x := by
            unfold roundDouble
            gcongr
        _ = 2 ^ Int.log 2 y := hpow'
    refine hxround.trans ?_
    have hyle : (2 : ℚ) ^ Int.log 2 y ≤ y := by
      simpa using Int.zpow_log_le_self (R := ℚ) (b := 2) (by norm_num) hy
    have hbits : (((2 : ℤ) ^ 52 : ℤ) : ℚ) ≤ y / 2 ^ lastBit y := by
      rw [le_div_iff₀ (by positivity), mul_comm]
      refine le_trans (le_of_eq ?_) hyle
      rw [← hpow]
      norm_num
    have hround : (((2 : ℤ) ^ 52 : ℤ) : ℚ) ≤ roundHalfEven (y / 2 ^ lastBit y) := by
      exact_mod_cast le_roundHalfEven hbits
    calc (2 : ℚ) ^ Int.log 2 y = (((2 : ℤ) ^ 52 : ℤ) : ℚ) * 2 ^ lastBit y := by
          rw [← hpow, mul_comm]
          norm_num
      _ ≤ roundDouble y := by
          unfold roundDouble
          gcongr

/-! ### The order of numbers -/

/-- A number as an extended rational number. -/
def extended : Number → WithBot (WithTop ℚ)
  | finite x => ((x.val : WithTop ℚ) : WithBot (WithTop ℚ))
  | infinity true => ⊥
  | infinity false => ((⊤ : WithTop ℚ) : WithBot (WithTop ℚ))
  | nan => ⊥

/-- **The comparison is that of the extended numbers**. -/
lemma lt_iff_extended {x y : Number} (hx : x ≠ nan) (hy : y ≠ nan) :
    lt x y = true ↔ extended x < extended y := by
  rcases x with _ | (_ | _) | x <;> rcases y with _ | (_ | _) | y <;> simp_all [lt, extended]
  exact WithBot.coe_lt_coe.mpr (WithTop.coe_lt_top _)

lemma extended_finite_le {x y : Double} :
    extended (finite x) ≤ extended (finite y) ↔ x.val ≤ y.val := by simp [extended]

variable {x : ℚ}

lemma roundDouble_nonneg (hx : 0 < x) : 0 ≤ roundDouble x := by
  have hbits : (0 : ℚ) ≤ roundHalfEven (x / 2 ^ lastBit x) := by
    exact_mod_cast (roundDouble_bits hx).1
  unfold roundDouble
  positivity

lemma extended_ofRat_of_le (hx : x ≤ 0) : extended (ofRat x) = extended (ofNat 0) := by
  rw [ofRat, dif_neg hx.not_gt]

lemma extended_ofNat_zero : extended (ofNat 0) = ((0 : ℚ) : WithTop ℚ) := by
  simp [ofNat, extended]

lemma zero_le_extended_ofRat (x : ℚ) : extended (ofNat 0) ≤ extended (ofRat x) := by
  by_cases hx : 0 < x
  · rw [extended_ofNat_zero, ofRat, dif_pos hx]
    split_ifs
    · simpa [extended] using roundDouble_nonneg hx
    · simp [extended]
  · rw [extended_ofRat_of_le (not_lt.mp hx)]

lemma extended_ofRat_mono (h : x ≤ y) : extended (ofRat x) ≤ extended (ofRat y) := by
  by_cases hx : 0 < x
  · have hround := roundDouble_mono hx h
    rw [ofRat, dif_pos hx, ofRat, dif_pos (hx.trans_le h)]
    split_ifs with h1 h2
    · simpa [extended] using hround
    · simp [extended]
    · exact absurd (hround.trans_lt ‹_›) h1
    · exact le_rfl
  · rw [extended_ofRat_of_le (not_lt.mp hx)]
    exact zero_le_extended_ofRat y

lemma extended_neg_le {x y : Number} (hx : x ≠ nan) (hy : y ≠ nan)
    (h : extended x ≤ extended y) : extended (neg y) ≤ extended (neg x) := by
  rcases x with _ | (_ | _) | x <;> rcases y with _ | (_ | _) | y <;> simp_all [neg, extended]
  exact_mod_cast neg_le_neg h

@[simp] lemma ofRat_ne_nan (x : ℚ) : ofRat x ≠ nan := by
  unfold ofRat
  split_ifs <;> simp

@[simp] lemma neg_ne_nan {x : Number} (hx : x ≠ nan) : neg x ≠ nan := by
  cases x with
  | nan => exact absurd rfl hx
  | infinity negative => simp [neg]
  | finite x => simp [neg]

@[simp] lemma ofRational_ne_nan (x : ℚ) : ofRational x ≠ nan := by
  unfold ofRational
  split_ifs
  · exact neg_ne_nan (ofRat_ne_nan _)
  · exact ofRat_ne_nan _

/-- **Rounding keeps the order**. -/
theorem extended_ofRational_mono (h : x ≤ y) :
    extended (ofRational x) ≤ extended (ofRational y) := by
  unfold ofRational
  split_ifs with hx hy hy
  · exact extended_neg_le (ofRat_ne_nan _) (ofRat_ne_nan _) (extended_ofRat_mono (by linarith))
  · have hneg : extended (neg (ofRat (-x))) ≤ extended (ofNat 0) := by
      have := extended_neg_le (ofNat_ne_nan 0) (ofRat_ne_nan (-x)) (zero_le_extended_ofRat (-x))
      refine this.trans (le_of_eq ?_)
      simp [ofNat, neg, extended]
    exact hneg.trans (zero_le_extended_ofRat y)
  · linarith
  · exact extended_ofRat_mono h

/-- **A double is its own nearest number**. -/
theorem ofRational_double (x : Double) : ofRational x.val = finite x := by
  obtain ⟨x, hdouble⟩ := x
  unfold ofRational
  split_ifs with hx
  · obtain ⟨hround, hlt⟩ := hdouble.of_neg hx
    rw [ofRat, dif_pos (by linarith), dif_pos (by rwa [hround]), neg]
    simp [hround]
  · rcases (not_lt.mp hx).eq_or_lt with rfl | hpos
    · simp [ofRat, ofNat]
    · obtain ⟨hround, hlt⟩ := hdouble.of_pos hpos
      rw [ofRat, dif_pos hpos, dif_pos (by rwa [hround])]
      simp [hround]

/-- **An integer of 53 bits is exact**. -/
theorem ofInt_exact {n : ℤ} (hn : |n| ≤ 2 ^ 53) : ∃ x : Double, ofInt n = finite x ∧ x.val = n := by
  obtain ⟨hlow, hhigh⟩ := abs_le.mp hn
  obtain ⟨x, hx, hval⟩ := ofNat_exact (n := n.natAbs) (by omega)
  have habs : (n.natAbs : ℚ) = |(n : ℚ)| := by
    rw [Nat.cast_natAbs, Int.cast_abs]
  unfold ofInt
  split_ifs with hneg
  · refine ⟨⟨-x.val, x.isDouble.neg⟩, by rw [hx]; rfl, ?_⟩
    dsimp only
    rw [hval, habs, abs_of_neg (by exact_mod_cast hneg), neg_neg]
  · refine ⟨x, hx, ?_⟩
    rw [hval, habs, abs_of_nonneg (by exact_mod_cast not_lt.mp hneg)]

/-- **Sums of small integers are exact**. -/
theorem add_ofInt {a b : ℤ} (ha : |a| ≤ 2 ^ 53) (hb : |b| ≤ 2 ^ 53) (hab : |a + b| ≤ 2 ^ 53) :
    add (ofInt a) (ofInt b) = ofInt (a + b) := by
  obtain ⟨x, hx, hxa⟩ := ofInt_exact ha
  obtain ⟨y, hy, hyb⟩ := ofInt_exact hb
  obtain ⟨z, hz, hzab⟩ := ofInt_exact hab
  rw [hx, hy, hz, ← ofRational_double z, add, hxa, hyb, hzab]
  push_cast
  rfl

/-! ### Integer parts -/

lemma trunc_le {x : Double} {n : ℤ} (h : x.val ≤ n) : trunc (finite x) ≤ n := by
  unfold trunc
  dsimp only
  split_ifs
  · exact Int.ceil_le.mpr h
  · exact_mod_cast (Int.floor_le x.val).trans h

lemma le_trunc {x : Double} {n : ℤ} (h : (n : ℚ) ≤ x.val) : n ≤ trunc (finite x) := by
  unfold trunc
  dsimp only
  split_ifs
  · exact_mod_cast h.trans (Int.le_ceil x.val)
  · exact Int.le_floor.mpr h

/-- **Integer parts keep the order**. -/
lemma trunc_mono {x y : Double} (h : x.val ≤ y.val) : trunc (finite x) ≤ trunc (finite y) := by
  by_cases hx : x.val < 0
  · by_cases hy : y.val < 0
    · simp only [trunc, if_pos hx, if_pos hy]
      exact Int.ceil_mono h
    · have h0 : trunc (finite x) ≤ 0 := trunc_le (by exact_mod_cast hx.le)
      have h1 : 0 ≤ trunc (finite y) := le_trunc (by exact_mod_cast not_lt.mp hy)
      omega
  · have hy : ¬ y.val < 0 := fun hy => hx (h.trans_lt hy)
    simp only [trunc, if_neg hx, if_neg hy]
    exact Int.floor_mono h

/-! ### Absolute values -/

lemma IsDouble.abs (h : IsDouble x) : IsDouble |x| := by
  rcases h with rfl | h
  · left
    simp
  · right
    rw [abs_abs]
    exact h

/-- `Math.abs(x)`. -/
def abs : Number → Number
  | nan => nan
  | infinity _ => infinity false
  | finite x => finite ⟨|x.val|, x.isDouble.abs⟩

@[simp] lemma abs_neg' (x : Number) : abs (neg x) = abs x := by
  cases x with
  | nan => rfl
  | infinity negative => rfl
  | finite x => simp [abs, neg]

lemma abs_ofRat (x : ℚ) : abs (ofRat x) = ofRat x := by
  unfold ofRat
  split_ifs with hx h
  · simp [abs, abs_of_nonneg (roundDouble_nonneg hx)]
  · rfl
  · simp [ofNat, abs]

/-- **Rounding is symmetric**. -/
lemma abs_ofRational (x : ℚ) : abs (ofRational x) = ofRat |x| := by
  unfold ofRational
  split_ifs with hx
  · rw [abs_neg', abs_ofRat, abs_of_neg hx]
  · rw [abs_ofRat, abs_of_nonneg (not_lt.mp hx)]

@[simp] lemma isFinite_abs (x : Number) : (abs x).isFinite = x.isFinite := by
  cases x <;> rfl

lemma ofRat_of_lt (hx : 0 ≤ x) (h : roundDouble x < 2 ^ 1024) :
    ∃ y : Double, ofRat x = finite y ∧ y.val = roundDouble x := by
  rcases hx.eq_or_lt with rfl | hpos
  · exact ⟨⟨0, .inl rfl⟩, by simp [ofRat, ofNat], by simp⟩
  · exact ⟨⟨roundDouble x, isDouble_roundDouble hpos h⟩, by rw [ofRat, dif_pos hpos, dif_pos h], rfl⟩

lemma ofRat_of_not_lt (hx : 0 ≤ x) (h : ¬ roundDouble x < 2 ^ 1024) :
    ofRat x = infinity false := by
  rcases hx.eq_or_lt with rfl | hpos
  · exact absurd (by rw [roundDouble_zero]; positivity) h
  · rw [ofRat, dif_pos hpos, dif_neg h]

lemma lt_of_lt_roundDouble {d : Double} (hd : 0 ≤ d.val) (hx : 0 ≤ x)
    (h : d.val < roundDouble x) : d.val < x := by
  by_contra hle
  rcases hx.eq_or_lt with rfl | hpos
  · rw [roundDouble_zero] at h
    exact absurd h hd.not_gt
  · have hround := roundDouble_mono hpos (not_lt.mp hle)
    rw [(d.isDouble.of_pos (hpos.trans_le (not_lt.mp hle))).1] at hround
    exact absurd h hround.not_gt

lemma le_roundDouble {d : Double} (hx : 0 ≤ x) (h : d.val ≤ x) : d.val ≤ roundDouble x := by
  rcases lt_or_ge 0 d.val with hd | hd
  · have hround := roundDouble_mono hd h
    rwa [(d.isDouble.of_pos hd).1] at hround
  · rcases hx.eq_or_lt with rfl | hpos
    · rwa [roundDouble_zero]
    · exact hd.trans (roundDouble_nonneg hpos)

/-! ### Decimal strings with a fixed number of digits -/

/-- The digits of a number that is not negative, with `digits` of them after the point. -/
def fixedChars (digits : ℕ) (x : ℚ) : List Char :=
  let s := Nat.toDigits 10 ⌊x * 10 ^ digits + 1 / 2⌋.toNat
  let s := List.replicate (digits + 1 - s.length) '0' ++ s
  if digits = 0 then s else s.take (s.length - digits) ++ '.' :: s.drop (s.length - digits)

/-- The decimal string with a fixed number of digits after the point. -/
def toFixed (digits : ℕ) : Number → List Char
  | finite x =>
    if |x.val| < 10 ^ 21 then
      if x.val < 0 then '-' :: fixedChars digits |x.val| else fixedChars digits |x.val|
    else toChars (finite x)
  | x => toChars x

end Number
