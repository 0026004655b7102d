import Mathlib.Data.Int.Log
import Mathlib.Data.List.TakeWhile
import Mathlib.Data.Rat.Floor
import Mathlib.Algebra.Order.Field.Power
import Mathlib.Tactic.FieldSimp
import Mathlib.Tactic.GCongr
import Mathlib.Tactic.Linarith
import Mathlib.Tactic.NormNum
import Mathlib.Tactic.Positivity

set_option autoImplicit false

/-!
# Numbers with 53 bits and their decimal strings

The numbers of a language whose only numeric type is binary64: how a decimal string is read as a
number, and how a number is printed. A number is printed with the fewest digits that are read back
as the number.

## Main definitions

* `Number`, `Number.roundDouble`, `Number.ofNat`, `Number.ofDigits`, `Number.toChars`.

## Main results

* `Number.isDouble_roundDouble`, `Number.exists_digits`, `Number.not_all_digits`.

## Design

A finite number is a rational number, so that the two zeros are one.
-/

namespace Number

/-! ### Rounding -/

/-- The nearest integer, ties to even. -/
def roundHalfEven (y : ℚ) : ℤ :=
  if 2 * (y - ⌊y⌋) > 1 ∨ 2 * (y - ⌊y⌋) = 1 ∧ ⌊y⌋ % 2 = 1 then ⌊y⌋ + 1 else ⌊y⌋

/-- The exponent of the last of the 53 bits. -/
def lastBit (x : ℚ) : ℤ := max (Int.log 2 x - 52) (-1074)

/-- The nearest number with 53 bits, for a positive number. -/
def roundDouble (x : ℚ) : ℚ := roundHalfEven (x / 2 ^ lastBit x) * 2 ^ lastBit x

/-- A double: zero, or a number that rounding leaves as it is. -/
def IsDouble (x : ℚ) : Prop := x = 0 ∨ roundDouble |x| = |x| ∧ |x| < 2 ^ 1024

instance (x : ℚ) : Decidable (IsDouble x) := inferInstanceAs (Decidable (_ ∨ _ ∧ _))

variable {x : ℚ}

lemma IsDouble.of_pos (h : IsDouble x) (hx : 0 < x) :
    roundDouble x = x ∧ x < 2 ^ 1024 := by
  rcases h with h | h
  · exact absurd h hx.ne'
  · rwa [abs_of_pos hx] at h

lemma IsDouble.of_neg (h : IsDouble x) (hx : x < 0) :
    roundDouble (-x) = -x ∧ -x < 2 ^ 1024 := by
  rcases h with h | h
  · exact absurd h hx.ne
  · rwa [abs_of_neg hx] at h

@[simp] lemma roundHalfEven_intCast (m : ℤ) : roundHalfEven m = m := by
  simp [roundHalfEven]

lemma le_roundHalfEven {m : ℤ} {y : ℚ} (h : (m : ℚ) ≤ y) : m ≤ roundHalfEven y := by
  have hfloor : m ≤ ⌊y⌋ := Int.le_floor.mpr h
  unfold roundHalfEven
  split_ifs <;> omega

lemma roundHalfEven_le {m : ℤ} {y : ℚ} (h : y ≤ m) : roundHalfEven y ≤ m := by
  rcases h.lt_or_eq with hlt | rfl
  · have hfloor : ⌊y⌋ < m := Int.floor_lt.mpr hlt
    unfold roundHalfEven
    split_ifs <;> omega
  · exact le_of_eq (roundHalfEven_intCast m)

/-- The bits of a positive number, as an integer with a fraction, are at most `2 ^ 53`. -/
lemma div_lastBit_lt (x : ℚ) : x / 2 ^ lastBit x < 2 ^ (53 : ℤ) := by
  have hlog := Int.lt_zpow_succ_log_self (R := ℚ) (b := 2) (by norm_num) x
  rw [div_lt_iff₀ (by positivity), ← zpow_add₀ (by norm_num)]
  refine hlog.trans_le (zpow_le_zpow_right₀ (by norm_num) ?_)
  unfold lastBit
  omega

/-- **Rounding keeps** an integer of at most 53 bits times a power of two. -/
lemma roundDouble_eq_self {m e : ℤ} (hm : 0 < m) (hle : m ≤ 2 ^ 53) (he : -1074 ≤ e) :
    roundDouble (m * 2 ^ e) = m * 2 ^ e := by
  have hx : (0 : ℚ) < m * 2 ^ e := by positivity
  -- the last bit is at most one above `e`, and only for the largest `m`
  obtain ⟨n, hn⟩ : ∃ n : ℤ, (m * 2 ^ e : ℚ) / 2 ^ lastBit (m * 2 ^ e) = n := by
    by_cases hlast : lastBit (m * 2 ^ e) ≤ e
    · obtain ⟨d, hd⟩ := Int.eq_ofNat_of_zero_le (sub_nonneg.mpr hlast)
      refine ⟨m * 2 ^ d, ?_⟩
      rw [mul_div_assoc, ← zpow_sub₀ (by norm_num), hd]
      push_cast
      rw [zpow_natCast]
    · have hlog : e + 53 ≤ Int.log 2 (m * 2 ^ e : ℚ) := by
        unfold lastBit at hlast
        omega
      have hge : (2 : ℚ) ^ (e + 53) ≤ m * 2 ^ e :=
        (zpow_le_zpow_right₀ (by norm_num) hlog).trans
          (by simpa using Int.zpow_log_le_self (R := ℚ) (b := 2) (by norm_num) hx)
      have heq : (m : ℚ) = 2 ^ (53 : ℤ) := by
        refine le_antisymm (by exact_mod_cast hle) ?_
        rw [zpow_add₀ (by norm_num), mul_comm] at hge
        exact le_of_mul_le_mul_right hge (by positivity)
      have hvalue : (m * 2 ^ e : ℚ) = 2 ^ (e + 53) := by
        rw [heq, zpow_add₀ (by norm_num), mul_comm]
      have hlast' : lastBit (m * 2 ^ e) = e + 1 := by
        unfold lastBit
        rw [hvalue]
        have := Int.log_zpow (R := ℚ) (b := 2) (by norm_num) (e + 53)
        push_cast at this
        omega
      refine ⟨2 ^ 52, ?_⟩
      rw [hlast', hvalue, ← zpow_sub₀ (by norm_num), show e + 53 - (e + 1) = 52 by ring]
      norm_num
  unfold roundDouble
  rw [hn, roundHalfEven_intCast, ← hn]
  field_simp

/-- A number below `2 ^ 1024` whose bits are those of an integer is a double. -/
lemma isDouble_mul {m e : ℤ} (hm : 0 ≤ m) (hle : m ≤ 2 ^ 53) (he : -1074 ≤ e)
    (hlt : (m * 2 ^ e : ℚ) < 2 ^ 1024) : IsDouble (m * 2 ^ e) := by
  rcases hm.eq_or_lt with rfl | hm
  · left
    simp
  · have hx : (0 : ℚ) < m * 2 ^ e := by
      positivity
    rw [IsDouble, abs_of_pos hx]
    exact .inr ⟨roundDouble_eq_self hm hle he, hlt⟩

lemma roundDouble_bits (hx : 0 < x) :
    0 ≤ roundHalfEven (x / 2 ^ lastBit x) ∧ roundHalfEven (x / 2 ^ lastBit x) ≤ 2 ^ 53 ∧
      -1074 ≤ lastBit x := by
  refine ⟨le_roundHalfEven (by push_cast; positivity), roundHalfEven_le ?_, le_max_right _ _⟩
  have := (div_lastBit_lt x).le
  exact_mod_cast this

/-- **Rounding gives a double**, unless it overflows. -/
theorem isDouble_roundDouble (hx : 0 < x) (hlt : roundDouble x < 2 ^ 1024) :
    IsDouble (roundDouble x) := by
  obtain ⟨hpos, hle, hlast⟩ := roundDouble_bits hx
  exact isDouble_mul hpos hle hlast hlt

@[simp] lemma roundDouble_zero : roundDouble 0 = 0 := by simp [roundDouble, roundHalfEven]

lemma exists_roundDouble_natCast (n : ℕ) (hn : 0 < n) : ∃ m : ℕ, roundDouble n = m := by
  have hx : (0 : ℚ) < n := by exact_mod_cast hn
  by_cases hlast : 0 ≤ lastBit (n : ℚ)
  · obtain ⟨hpos, -, -⟩ := roundDouble_bits hx
    obtain ⟨d, hd⟩ := Int.eq_ofNat_of_zero_le hlast
    obtain ⟨q, hq⟩ := Int.eq_ofNat_of_zero_le hpos
    refine ⟨q * 2 ^ d, ?_⟩
    unfold roundDouble
    rw [hq, hd]
    push_cast
    rw [zpow_natCast]
  · refine ⟨n, ?_⟩
    have hlog : Int.log 2 (n : ℚ) < 52 := by
      unfold lastBit at hlast
      omega
    have hlt : (n : ℚ) < 2 ^ (53 : ℤ) := by
      have h := Int.lt_zpow_succ_log_self (R := ℚ) (b := 2) (by norm_num) (n : ℚ)
      have hexp : Int.log 2 (n : ℚ) + 1 ≤ 53 := by omega
      exact h.trans_le (by exact_mod_cast zpow_le_zpow_right₀ (by norm_num : (1 : ℚ) ≤ 2) hexp)
    have hle : (n : ℤ) ≤ 2 ^ 53 := by
      have : (n : ℚ) < ((2 ^ 53 : ℤ) : ℚ) := by
        exact_mod_cast hlt
      exact_mod_cast this.le
    simpa using roundDouble_eq_self (m := n) (e := 0) (by exact_mod_cast hn) hle (by norm_num)

lemma isDouble_roundDouble_natCast (n : ℕ) (h : roundDouble n < 2 ^ 1024) :
    IsDouble (roundDouble n) := by
  rcases n.eq_zero_or_pos with rfl | hn
  · left
    simp
  · exact isDouble_roundDouble (by exact_mod_cast hn) h

/-- **A finite number**: a rational number that is a double. -/
structure Double where
  /-- Its value. -/
  val : ℚ
  /-- It is a double. -/
  isDouble : IsDouble val
  deriving DecidableEq

end Number

/-- **A number**: not a number, an infinity, or finite. -/
inductive Number where
  | nan
  | infinity (negative : Bool)
  | finite (x : Number.Double)
  deriving DecidableEq

namespace Number

/-! ### Comparisons -/

/-- `x < y`, false when one is not a number. -/
def lt : Number → Number → Bool
  | finite x, finite y => x.val < y.val
  | infinity true, finite _ => true
  | finite _, infinity false => true
  | infinity true, infinity false => true
  | _, _ => false

@[simp] lemma nan_lt (x : Number) : lt nan x = false := rfl

@[simp] lemma lt_nan (x : Number) : lt x nan = false := by
  rcases x with _ | (_ | _) | x <;> rfl

@[simp] lemma lt_irrefl (x : Number) : lt x x = false := by
  rcases x with _ | (_ | _) | x <;> simp [lt]

/-- `x >= y`, false when one is not a number. -/
def ge (x y : Number) : Bool := x ≠ nan && y ≠ nan && !lt x y

/-- `Math.max(x, y)`. -/
def maximum (x y : Number) : Number :=
  if x = nan || y = nan then nan else if lt x y then y else x

/-- `Math.min(x, y)`. -/
def minimum (x y : Number) : Number :=
  if x = nan || y = nan then nan else if lt y x then y else x

/-- `x === y`: what is not a number is equal to nothing. -/
def strictEq (x y : Number) : Bool := x ≠ nan && x = y

/-- A number that is not infinite. -/
def isFinite : Number → Bool
  | finite _ => true
  | _ => false

/-! ### Reading -/

/-- **The nearest number** to a natural number, infinite when it is too large. -/
def ofNat (n : ℕ) : Number :=
  if h : roundDouble n < 2 ^ 1024 then finite ⟨roundDouble n, isDouble_roundDouble_natCast n h⟩
  else infinity false

lemma IsDouble.neg {x : ℚ} (h : IsDouble x) : IsDouble (-x) := by
  rcases h with rfl | h
  · left
    simp
  · right
    rw [abs_neg]
    exact h

/-- `-x`. -/
def neg : Number → Number
  | nan => nan
  | infinity negative => infinity !negative
  | finite x => finite ⟨-x.val, x.isDouble.neg⟩

/-- **The nearest number** to an integer. -/
def ofInt (n : ℤ) : Number := if n < 0 then neg (ofNat n.natAbs) else ofNat n.natAbs

/-- **The nearest number** to a rational number that is not negative. -/
def ofRat (x : ℚ) : Number :=
  if hx : 0 < x then
    if h : roundDouble x < 2 ^ 1024 then finite ⟨roundDouble x, isDouble_roundDouble hx h⟩
    else infinity false
  else ofNat 0

/-- `parseInt(s, 10)` **for a string without a sign or white space**: the digits it starts with are
read, and without one the result is not a number. -/
def parseInt (s : List Char) : Number :=
  match s.takeWhile Char.isDigit with
  | [] => nan
  | ds => ofNat (Nat.ofDigitChars 10 ds 0)

@[simp] lemma ofNat_ne_nan (n : ℕ) : ofNat n ≠ nan := by
  unfold ofNat
  split_ifs <;> simp

@[simp] lemma lt_ofNat_zero (n : ℕ) : lt (ofNat n) (ofNat 0) = false := by
  have hnonneg : 0 ≤ roundDouble n := by
    rcases n.eq_zero_or_pos with rfl | hn
    · simp
    · obtain ⟨m, hm⟩ := exists_roundDouble_natCast n hn
      rw [hm]
      positivity
  unfold ofNat
  split_ifs with h h0
  · simpa [lt] using hnonneg
  · simp at h0
  · rfl
  · rfl

/-- **A number of at most 53 bits is read exactly**. -/
lemma ofNat_exact {n : ℕ} (hn : n ≤ 2 ^ 53) : ∃ x : Double, ofNat n = finite x ∧ x.val = n := by
  have hround : roundDouble n = n := by
    rcases n.eq_zero_or_pos with rfl | hpos
    · simp
    · simpa using roundDouble_eq_self (m := n) (e := 0) (by exact_mod_cast hpos)
        (by exact_mod_cast hn) (by norm_num)
  have hlt : roundDouble n < 2 ^ 1024 := by
    rw [hround]
    have hle : (n : ℚ) ≤ 2 ^ 53 := by exact_mod_cast hn
    exact hle.trans_lt (pow_lt_pow_right₀ (by norm_num) (by norm_num))
  refine ⟨⟨roundDouble n, isDouble_roundDouble_natCast n hlt⟩, ?_, hround⟩
  exact dif_pos hlt

lemma parseInt_digits {ds : List Char} (hne : ds ≠ []) (hds : ∀ c ∈ ds, c.isDigit) :
    parseInt ds = ofNat (Nat.ofDigitChars 10 ds 0) := by
  unfold parseInt
  rw [List.takeWhile_eq_self_iff.mpr hds]
  cases ds with
  | nil => exact absurd rfl hne
  | cons d ds => rfl

@[simp] lemma parseInt_nil : parseInt [] = nan := rfl

/-! ### Printing -/

/-- The exponent after the leading digit of a positive number, the `n` of the printed form. -/
def pointPosition (x : ℚ) : ℤ := Int.log 10 x + 1

/-- The integers next to a number written with `k` digits, the nearest one first. -/
def candidates (x : ℚ) (k : ℕ) : List ℕ :=
  let y := x * 10 ^ ((k : ℤ) - pointPosition x)
  [(roundHalfEven y).toNat, ⌊y⌋₊, ⌈y⌉₊]

/-- The integer of `k` digits that is read back as the number. -/
def significand (x : ℚ) (k : ℕ) : Option ℕ :=
  (candidates x k).find? fun s => roundDouble (s * 10 ^ (pointPosition x - k)) = x

/-- The fewest digits that are read back as the number. -/
def shortest (x : ℚ) : Option ℕ :=
  (List.range' 1 2098).find? fun k => (significand x k).isSome

/-- The `k` digits of `s` with the decimal point after `n` of them: as an integer, with a point,
or with an exponent. -/
def formatDigits (s k : ℕ) (n : ℤ) : List Char :=
  let ds := Nat.toDigits 10 s
  if k ≤ n ∧ n ≤ 21 then ds ++ List.replicate (n - k).toNat '0'
  else if 0 < n ∧ n ≤ 21 then ds.take n.toNat ++ '.' :: ds.drop n.toNat
  else if -6 < n ∧ n ≤ 0 then '0' :: '.' :: (List.replicate (-n).toNat '0' ++ ds)
  else
    ds.take 1 ++ (if k = 1 then [] else '.' :: ds.drop 1) ++
      'e' :: (if n - 1 < 0 then '-' else '+') :: Nat.toDigits 10 (n - 1).natAbs

/-- `Number::toString` of a positive number. A candidate that is a power of ten has one digit. -/
def positiveToChars (x : ℚ) : List Char :=
  match shortest x with
  | none => []
  | some k =>
    match significand x k with
    | none => []
    | some s =>
      if s = 10 ^ k then formatDigits 1 1 (pointPosition x + 1)
      else formatDigits s k (pointPosition x)

/-- `Number::toString` of a finite number. -/
def finiteToChars (x : ℚ) : List Char :=
  if x = 0 then ['0']
  else if x < 0 then '-' :: positiveToChars (-x)
  else positiveToChars x

/-- **The decimal string of a number.** -/
def toChars : Number → List Char
  | nan => ['N', 'a', 'N']
  | infinity false => ['I', 'n', 'f', 'i', 'n', 'i', 't', 'y']
  | infinity true => ['-', 'I', 'n', 'f', 'i', 'n', 'i', 't', 'y']
  | finite x => finiteToChars x.val

variable {x : Double}

lemma toChars_zero (hx : x.val = 0) : toChars (finite x) = ['0'] := if_pos hx

lemma toChars_neg (hx : x.val < 0) :
    toChars (finite x) = '-' :: positiveToChars (-x.val) := by
  show finiteToChars x.val = _
  rw [finiteToChars, if_neg hx.ne, if_pos hx]

lemma toChars_pos (hx : 0 < x.val) :
    toChars (finite x) = positiveToChars x.val := by
  show finiteToChars x.val = _
  rw [finiteToChars, if_neg hx.ne', if_neg hx.le.not_gt]

end Number
