import NodeOpcua.Library.NumberArithmetic
import NodeOpcua.Variant.Basic

set_option autoImplicit false

/-!
# Deadbands

A monitored item with a deadband reports a value only when it is far enough from the last one. The
checks of `deadband_checker.ts` compare the distance of two values with the deadband.

## Main definitions

* `Deadband._isOutsideDeadbandScalar`, `isOutsideDeadbandAbsolute`, `isOutsideDeadbandPercent`.
* `Deadband.rational`, `Deadband.ReportsExactly`.
* `Deadband.Faithful`.

## Main results

* `Deadband.scalar_eq_none_iff`, `Deadband.reportsExactly_iff`.

## Design

* A check that throws has no result.
* Differences and products are those of numbers with 53 bits. A 64-bit value is the pair of its words.
-/

namespace NodeOpcua.Deadband

open BuiltIn (DataType Element Variant)
open List (mem_cons_self)
open Number (ofInt roundDouble ofInt_exact ofRat_of_lt ge ofNat lt)

variable {U : CaseMapping} {X : Type}

/-! ### Values -/

/-- A value whose `typeof` is `"number"`. -/
def number : Element U X → Option Number
  | .sByte value => some (.ofInt value.toInt)
  | .byte value => some (.ofInt value.toNat)
  | .int16 value => some (.ofInt value.toInt)
  | .uint16 value => some (.ofInt value.toNat)
  | .int32 value => some (.ofInt value.toInt)
  | .uint32 value => some (.ofInt value.toNat)
  | .float value => some value
  | .double value => some value
  | _ => none

/-- A value that is a pair of numbers: its high word and its low word. -/
def words : Element U X → Option (Number × Number)
  | .int64 high low => some (.ofInt high.toNat, .ofInt low.toNat)
  | .uint64 high low => some (.ofInt high.toNat, .ofInt low.toNat)
  | _ => none

/-- The `length` of the value of a scalar, which may be undefined; reading it from a null value
throws. -/
def scalarLength : Element U X → Option (Option ℕ)
  | .null => none
  | .boolean _ | .sByte _ | .byte _ | .int16 _ | .uint16 _ | .int32 _ | .uint32 _ | .float _
  | .double _ => some none
  | .int64 _ _ | .uint64 _ _ => some (some 2)
  | .string value | .guid value | .xmlElement value =>
    value.map fun value => some (value.toList.map fun c => if c.toNat < 0x10000 then 1 else 2).sum
  | .byteString value => value.map fun value => some value.length
  | .dateTime value => value.map fun _ => none
  | .nodeId value => value.map fun _ => none
  | .expandedNodeId value => value.map fun _ => none
  | .statusCode value => value.map fun _ => none
  | .qualifiedName value => value.map fun _ => none
  | .localizedText value => value.map fun _ => none
  | .extensionObject value => value.map fun _ => none
  | .dataValue value => value.map fun _ => none
  | .variant value => value.map fun _ => none
  | .diagnosticInfo value => value.map fun _ => none

/-- The elements of an array or of a matrix that is not null. -/
def elements : Variant U X → Option (List (Element U X))
  | .scalar _ => none
  | .array _ value => value
  | .matrix _ value _ => some value

/-! ### The checks -/

/-- `_isOutsideDeadbandScalar`. -/
def _isOutsideDeadbandScalar (value1 value2 : Element U X) (dataType : DataType)
    (absoluteDeadband : Number) : Option Bool :=
  if dataType = .uint64 ∨ dataType = .int64 then
    match words value1, words value2 with
    | some (h1, l1), some (h2, l2) =>
      if !h1.strictEq h2 &&
          absoluteDeadband.lt (((h1.sub h2).mul (.ofInt 4294967295)).abs) then some true
      else
        let diff := l1.sub l2
        if diff.isFinite then some (absoluteDeadband.lt diff.abs) else none
    | _, _ => none
  else
    match number value1, number value2 with
    | some value1, some value2 =>
      let diff := value2.sub value1
      if diff.isFinite then some (absoluteDeadband.lt diff.abs) else none
    | _, _ => none

/-- The loop of `isOutsideDeadbandVariant` over the elements. -/
def isOutsideDeadbandElements (dataType : DataType) (absoluteDeadBand : Number) :
    List (Element U X × Element U X) → Option Bool
  | [] => some false
  | (value1, value2) :: rest =>
    match _isOutsideDeadbandScalar value1 value2 dataType absoluteDeadBand with
    | none => none
    | some true => some true
    | some false => isOutsideDeadbandElements dataType absoluteDeadBand rest

/-- An array is compared with the value of another variant of its type. -/
def isOutsideDeadbandArray (elements1 : List (Element U X)) (v2 : Variant U X) (dataType : DataType)
    (absoluteDeadBand : Number) : Option Bool :=
  match v2 with
  | .scalar value2 =>
    match scalarLength value2 with
    | none => none
    | some length =>
      if some elements1.length ≠ length then some true
      -- the value of a scalar has no elements that can be compared
      else if elements1 = [] then some false
      else none
  | .array _ none => none
  | .array _ (some elements2) | .matrix _ elements2 _ =>
    if elements1.length ≠ elements2.length then some true
    else isOutsideDeadbandElements dataType absoluteDeadBand (elements1.zip elements2)

/-- `isOutsideDeadbandVariant`. -/
def isOutsideDeadbandVariant (v1 v2 : Variant U X) (absoluteDeadBand : Number) : Option Bool :=
  if !absoluteDeadBand.isFinite then none
  else if v1.dataType ≠ v2.dataType then some true
  else
    match v1 with
    | .scalar value1 =>
      match v2 with
      | .scalar value2 => _isOutsideDeadbandScalar value1 value2 v1.dataType absoluteDeadBand
      | _ => none
    | .array _ none => none
    | .array _ (some elements1) | .matrix _ elements1 _ =>
      isOutsideDeadbandArray elements1 v2 v1.dataType absoluteDeadBand

/-- `isOutsideDeadbandAbsolute`. -/
def isOutsideDeadbandAbsolute (variant1 variant2 : Variant U X) (deadbandValue : Number) :
    Option Bool :=
  isOutsideDeadbandVariant variant1 variant2 deadbandValue

/-- `PseudoRange`. -/
structure PseudoRange where
  low : Number
  high : Number

/-- `isOutsideDeadbandPercent`. -/
def isOutsideDeadbandPercent (variant1 variant2 : Variant U X) (deadbandValuePercent : Number)
    (range : PseudoRange) : Option Bool :=
  if !(deadbandValuePercent.ge (.ofInt 0) && (ofInt 100).ge deadbandValuePercent) then none
  else
    let valueRange := (range.high.sub range.low).abs
    let deadBandValueAbsolute := (deadbandValuePercent.div (.ofInt 100)).mul valueRange
    isOutsideDeadbandAbsolute variant1 variant2 deadBandValueAbsolute

/-! ### Exactness -/

/-- A type of numbers. -/
def IsNumeric (dataType : DataType) : Prop :=
  dataType ∈ [DataType.sByte, .byte, .int16, .uint16, .int32, .uint32, .int64, .uint64, .float, .double]

/-- **The mathematical value** of a number that is finite. -/
def rational : Element U X → Option ℚ
  | .sByte value => some value.toInt
  | .byte value => some value.toNat
  | .int16 value => some value.toInt
  | .uint16 value => some value.toNat
  | .int32 value => some value.toInt
  | .uint32 value => some value.toNat
  | .int64 high low => some (4294967296 * high.toInt + low.toNat)
  | .uint64 high low => some (4294967296 * high.toNat + low.toNat)
  | .float (.finite value) => some value.val
  | .double (.finite value) => some value.val
  | _ => none

/-- A distance is greater than a deadband that is not negative. -/
def exceeds (distance : ℚ) : Number → Bool
  | .finite deadband => deadband.val < distance
  | _ => false

/-- **The check is exact**: a change is reported when the mathematical distance is greater than the
deadband, and only then. -/
def ReportsExactly (value1 value2 : Element U X) (deadband : Number) : Prop :=
  ∃ q1 q2, rational value1 = some q1 ∧ rational value2 = some q2 ∧
    isOutsideDeadbandAbsolute (.scalar value1) (.scalar value2) deadband =
      some (exceeds |q1 - q2| deadband)

/-- Two numbers are finite, and so is their difference; and when their distance is greater than the
deadband, it is not rounded to it. -/
def FaithfulNumbers (value1 value2 : Number) (deadband : ℚ) : Prop :=
  ∃ x y : Number.Double, value1 = .finite x ∧ value2 = .finite y ∧
    roundDouble |x.val - y.val| < 2 ^ 1024 ∧
    ¬ (deadband < |x.val - y.val| ∧ roundDouble |x.val - y.val| = deadband)

/-- The deadband is not between a distance and 4294967295 times the distance of the high words, when
these are different. -/
def FaithfulWords (high1 high2 : BitVec 32) (distance deadband : ℚ) : Prop :=
  high1 = high2 ∨
    ¬ (roundDouble |((high1.toNat : ℚ) - high2.toNat) * 4294967295| ≤ deadband ∧
        deadband < distance) ∧
      ¬ (distance ≤ deadband ∧
        deadband < roundDouble |((high1.toNat : ℚ) - high2.toNat) * 4294967295|)

/-- **Where the check is exact**: everywhere for the integers of at most 32 bits. -/
def Faithful (value1 value2 : Element U X) (deadband : ℚ) : Prop :=
  match value1, value2 with
  | .float value1, .float value2 => FaithfulNumbers value1 value2 deadband
  | .double value1, .double value2 => FaithfulNumbers value1 value2 deadband
  | .int64 high1 low1, .int64 high2 low2 => FaithfulWords high1 high2
      |(4294967296 * high1.toInt + low1.toNat : ℚ) - (4294967296 * high2.toInt + low2.toNat)| deadband
  | .uint64 high1 low1, .uint64 high2 low2 => FaithfulWords high1 high2
      |(4294967296 * high1.toNat + low1.toNat : ℚ) - (4294967296 * high2.toNat + low2.toNat)| deadband
  | _, _ => True

lemma sub_ofInt {a b : ℤ} (ha : |a| ≤ 2 ^ 53) (hb : |b| ≤ 2 ^ 53) (hab : |a - b| ≤ 2 ^ 53) :
    ∃ z : Number.Double, (ofInt a).sub (.ofInt b) = .finite z ∧ z.val = a - b := by
  obtain ⟨x, hx, hxa⟩ := ofInt_exact ha
  obtain ⟨y, hy, hyb⟩ := ofInt_exact hb
  obtain ⟨z, hz, hzab⟩ := ofInt_exact hab
  refine ⟨z, ?_, by rw [hzab]; push_cast; rfl⟩
  rw [hx, hy, ← Number.ofRational_double z]
  show Number.ofRational (x.val + -y.val) = _
  rw [hxa, hyb, hzab, Int.cast_sub, sub_eq_add_neg]

lemma compare_finite (deadband z : Number.Double) :
    (if (Number.finite z).isFinite then some ((Number.finite deadband).lt (Number.finite z).abs)
      else none) = some (decide (deadband.val < |z.val|)) := rfl

lemma compare_ofInt {a b : ℤ} (ha : |a| ≤ 2 ^ 33) (hb : |b| ≤ 2 ^ 33) (deadband : Number.Double) :
    (if ((ofInt b).sub (.ofInt a)).isFinite then
      some ((Number.finite deadband).lt ((ofInt b).sub (.ofInt a)).abs) else none) =
      some (decide (deadband.val < |(a : ℚ) - b|)) := by
  have hab : |b - a| ≤ 2 ^ 53 := by
    rw [abs_le] at ha hb ⊢
    omega
  obtain ⟨z, hz, hval⟩ := sub_ofInt (hb.trans (by norm_num)) (ha.trans (by norm_num)) hab
  rw [hz, compare_finite, hval, abs_sub_comm]

/-- **The check of two doubles** compares their distance after it is rounded. -/
lemma compare_doubles (x y deadband : Number.Double) :
    (if ((Number.finite y).sub (.finite x)).isFinite then
      some ((Number.finite deadband).lt ((Number.finite y).sub (.finite x)).abs) else none) =
      if roundDouble |x.val - y.val| < 2 ^ 1024 then
        some (decide (deadband.val < roundDouble |x.val - y.val|)) else none := by
  have hdiff : (Number.finite y).sub (.finite x) = .ofRational (y.val - x.val) := by
    rw [Number.sub, Number.neg, Number.add, sub_eq_add_neg]
  have habs : ((Number.finite y).sub (.finite x)).abs = .ofRat |x.val - y.val| := by
    rw [hdiff, Number.abs_ofRational, abs_sub_comm]
  rw [← Number.isFinite_abs, habs]
  split_ifs with hfin hlt hlt
  · obtain ⟨w, hw, hval⟩ := ofRat_of_lt (abs_nonneg _) hlt
    rw [hw, ← hval]
    rfl
  · rw [Number.ofRat_of_not_lt (abs_nonneg _) hlt] at hfin
    cases hfin
  · obtain ⟨w, hw, -⟩ := ofRat_of_lt (abs_nonneg _) hlt
    rw [hw] at hfin
    exact absurd rfl hfin
  · rfl

variable {deadband : Number.Double}

lemma roundDouble_right_iff (hd : 0 ≤ deadband.val) {distance : ℚ} (hdistance : 0 ≤ distance) :
    (deadband.val < roundDouble distance ↔ deadband.val < distance) ↔
      ¬ (deadband.val < distance ∧ roundDouble distance = deadband.val) := by
  constructor
  · rintro hiff ⟨hlt, heq⟩
    exact absurd (hiff.mpr hlt) (by rw [heq]; exact lt_irrefl _)
  · intro hne
    refine ⟨Number.lt_of_lt_roundDouble hd hdistance, fun hlt => ?_⟩
    have hle := Number.le_roundDouble hdistance hlt.le
    exact lt_of_le_of_ne hle fun heq => hne ⟨hlt, heq.symm⟩

lemma abs_words_le (word1 word2 : BitVec 32) : |(word1.toNat : ℤ) - word2.toNat| ≤ 4294967295 := by
  rw [abs_le]
  omega

lemma strictEq_words (word1 word2 : BitVec 32) :
    (ofInt word1.toNat).strictEq (.ofInt word2.toNat) = decide (word1 = word2) := by
  have hsmall : ∀ word : BitVec 32, |(word.toNat : ℤ)| ≤ 2 ^ 53 := by
    intro word
    rw [abs_le]
    omega
  obtain ⟨x, hx, hxval⟩ := ofInt_exact (hsmall word1)
  obtain ⟨y, hy, hyval⟩ := ofInt_exact (hsmall word2)
  by_cases heq : word1 = word2
  · subst heq
    rw [hx]
    simp [Number.strictEq]
  · have hne : x ≠ y := by
      rintro rfl
      rw [hxval] at hyval
      exact heq (BitVec.eq_of_toNat_eq (by exact_mod_cast hyval))
    rw [hx, hy]
    simp [Number.strictEq, heq, hne]

/-- What the check takes for the distance of two 64-bit values with different high words. -/
def apparentDistance (high1 high2 : BitVec 32) : ℚ :=
  roundDouble |((high1.toNat : ℚ) - high2.toNat) * 4294967295|

lemma abs_mul_words (high1 high2 : BitVec 32) : ∃ w : Number.Double,
    (((ofInt high1.toNat).sub (.ofInt high2.toNat)).mul (.ofInt 4294967295)).abs = .finite w ∧
      w.val = apparentDistance high1 high2 := by
  have hle := abs_words_le high1 high2
  obtain ⟨z, hz, hzval⟩ := sub_ofInt (a := high1.toNat) (b := high2.toNat)
    (by have := high1.isLt; rw [abs_le]; omega) (by have := high2.isLt; rw [abs_le]; omega)
    (hle.trans (by norm_num))
  obtain ⟨k, hk, hkval⟩ := ofInt_exact (n := 4294967295) (by norm_num)
  have hproduct : (((ofInt high1.toNat).sub (.ofInt high2.toNat)).mul
      (.ofInt 4294967295)).abs = .ofRat |((high1.toNat : ℚ) - high2.toNat) * 4294967295| := by
    rw [hz, hk]
    show (Number.ofRational (z.val * k.val)).abs = _
    rw [Number.abs_ofRational, hzval, hkval]
    rfl
  have hlt : apparentDistance high1 high2 < 2 ^ 1024 := by
    have hbound : |((high1.toNat : ℚ) - high2.toNat) * 4294967295| ≤ 2 ^ (64 : ℤ) := by
      have hcast : |(high1.toNat : ℚ) - high2.toNat| ≤ 4294967295 := by exact_mod_cast hle
      rw [abs_mul, abs_of_pos (show (0 : ℚ) < 4294967295 by norm_num)]
      calc |(high1.toNat : ℚ) - high2.toNat| * 4294967295 ≤ 4294967295 * 4294967295 := by
            gcongr
        _ ≤ 2 ^ (64 : ℤ) := by norm_num
    have hround : roundDouble (2 ^ (64 : ℤ)) = 2 ^ (64 : ℤ) := by
      have := Number.roundDouble_eq_self (m := 1) (e := 64) (by norm_num) (by norm_num) (by norm_num)
      simpa using this
    rcases (abs_nonneg (((high1.toNat : ℚ) - high2.toNat) * 4294967295)).eq_or_lt with h0 | hpos
    · rw [apparentDistance, ← h0, Number.roundDouble_zero]
      positivity
    · have hmono := Number.roundDouble_mono hpos hbound
      rw [hround] at hmono
      refine hmono.trans_lt ?_
      exact pow_lt_pow_right₀ (by norm_num) (by norm_num)
  obtain ⟨w, hw, hwval⟩ := ofRat_of_lt (abs_nonneg _) hlt
  exact ⟨w, hproduct.trans hw, hwval⟩

lemma le_apparentDistance {high1 high2 : BitVec 32} (h : high1 ≠ high2) (low1 low2 : BitVec 32) :
    |(low1.toNat : ℚ) - low2.toNat| ≤ apparentDistance high1 high2 := by
  obtain ⟨k, -, hkval⟩ := ofInt_exact (n := 4294967295) (by norm_num)
  have hlow : |(low1.toNat : ℚ) - low2.toNat| ≤ 4294967295 := by
    exact_mod_cast abs_words_le low1 low2
  have hhigh : (1 : ℚ) ≤ |(high1.toNat : ℚ) - high2.toNat| := by
    have hne : (high1.toNat : ℤ) - high2.toNat ≠ 0 := by
      intro h0
      exact h (BitVec.eq_of_toNat_eq (by omega))
    exact_mod_cast Int.one_le_abs hne
  have hle : k.val ≤ |((high1.toNat : ℚ) - high2.toNat) * 4294967295| := by
    rw [hkval, abs_mul, abs_of_pos (show (0 : ℚ) < 4294967295 by norm_num)]
    push_cast
    linarith
  refine hlow.trans ?_
  have hround := Number.le_roundDouble (abs_nonneg _) hle
  rw [hkval, Int.cast_ofNat] at hround
  exact hround

variable {value1 value2 : Element U X} {high1 low1 high2 low2 : BitVec 32}

/-- **The check of two 64-bit values**: the low words count only when the high words are equal. -/
lemma compare_words {dataType : DataType} (htype : dataType = .uint64 ∨ dataType = .int64)
    (h1 : words value1 = some (.ofInt high1.toNat, .ofInt low1.toNat))
    (h2 : words value2 = some (.ofInt high2.toNat, .ofInt low2.toNat)) (deadband : Number.Double) :
    _isOutsideDeadbandScalar value1 value2 dataType (.finite deadband) =
      some (if high1 = high2 then decide (deadband.val < |(low1.toNat : ℚ) - low2.toNat|)
        else decide (deadband.val < apparentDistance high1 high2)) := by
  obtain ⟨w, hw, hwval⟩ := abs_mul_words high1 high2
  have hlow := compare_ofInt (a := low2.toNat) (b := low1.toNat)
    (by have := low2.isLt; rw [abs_le]; omega) (by have := low1.isLt; rw [abs_le]; omega) deadband
  unfold _isOutsideDeadbandScalar
  rw [if_pos htype, h1, h2]
  dsimp only
  rw [strictEq_words, hw]
  have hlow' : |((low2.toNat : ℤ) : ℚ) - ((low1.toNat : ℤ) : ℚ)| = |(low1.toNat : ℚ) - low2.toNat| := by
    exact abs_sub_comm _ _
  rw [hlow'] at hlow
  by_cases heq : high1 = high2
  · rw [if_pos heq, decide_eq_true heq]
    simpa using hlow
  · rw [if_neg heq, decide_eq_false heq]
    have hcompare : (Number.finite deadband).lt (.finite w) =
        decide (deadband.val < apparentDistance high1 high2) := by
      rw [← hwval]
      rfl
    rw [hcompare]
    by_cases hlt : deadband.val < apparentDistance high1 high2
    · simp [hlt]
    · have hnot : ¬ deadband.val < |(low1.toNat : ℚ) - low2.toNat| :=
        fun hlt' => hlt (hlt'.trans_le (le_apparentDistance heq low1 low2))
      rw [decide_eq_false hlt]
      simpa [hnot] using hlow

/-! ### Values -/

section

variable (h : value1.dataType = value2.dataType)
include h

lemma check_scalars (deadband : Number.Double) :
    isOutsideDeadbandAbsolute (.scalar value1) (.scalar value2) (.finite deadband) =
      _isOutsideDeadbandScalar value1 value2 value1.dataType (.finite deadband) := by
  unfold isOutsideDeadbandAbsolute isOutsideDeadbandVariant
  rw [if_neg (by simp [Number.isFinite]),
    if_neg (show ¬ (Variant.scalar value1).dataType ≠ (Variant.scalar value2).dataType from
      not_not.mpr h)]
  rfl

section

variable (hsmall : ¬ (value1.dataType = .uint64 ∨ value1.dataType = .int64))
include hsmall

lemma reportsExactly_integers {a b : ℤ}
    (h1 : number value1 = some (.ofInt a)) (h2 : number value2 = some (.ofInt b))
    (hq1 : rational value1 = some (a : ℚ)) (hq2 : rational value2 = some (b : ℚ))
    (ha : |a| ≤ 2 ^ 33) (hb : |b| ≤ 2 ^ 33) (deadband : Number.Double) :
    ReportsExactly value1 value2 (.finite deadband) := by
  refine ⟨a, b, hq1, hq2, ?_⟩
  rw [check_scalars h, _isOutsideDeadbandScalar, if_neg hsmall, h1, h2]
  exact compare_ofInt ha hb deadband

lemma reportsExactly_numbers {n1 n2 : Number}
    (h1 : number value1 = some n1) (h2 : number value2 = some n2)
    (hq1 : ∀ q, rational value1 = some q ↔ ∃ x : Number.Double, n1 = .finite x ∧ x.val = q)
    (hq2 : ∀ q, rational value2 = some q ↔ ∃ x : Number.Double, n2 = .finite x ∧ x.val = q)
    (hd : 0 ≤ deadband.val) :
    ReportsExactly value1 value2 (.finite deadband) ↔ FaithfulNumbers n1 n2 deadband.val := by
  unfold ReportsExactly FaithfulNumbers
  rw [check_scalars h, _isOutsideDeadbandScalar, if_neg hsmall, h1, h2]
  dsimp only
  constructor
  · rintro ⟨q1, q2, hx, hy, hcheck⟩
    obtain ⟨x, rfl, rfl⟩ := (hq1 q1).mp hx
    obtain ⟨y, rfl, rfl⟩ := (hq2 q2).mp hy
    rw [compare_doubles] at hcheck
    split at hcheck
    · next hlt =>
      have hright := decide_eq_decide.mp (Option.some.inj hcheck)
      exact ⟨x, y, rfl, rfl, hlt, (roundDouble_right_iff hd (abs_nonneg _)).mp hright⟩
    · cases hcheck
  · rintro ⟨x, y, rfl, rfl, hlt, hne⟩
    refine ⟨x.val, y.val, (hq1 _).mpr ⟨x, rfl, rfl⟩, (hq2 _).mpr ⟨y, rfl, rfl⟩, ?_⟩
    rw [compare_doubles, if_pos hlt]
    exact congrArg some
      (decide_eq_decide.mpr ((roundDouble_right_iff hd (abs_nonneg _)).mpr hne))

end

lemma reportsExactly_words {q1 q2 : ℚ}
    (hlarge : value1.dataType = .uint64 ∨ value1.dataType = .int64)
    (h1 : words value1 = some (.ofInt high1.toNat, .ofInt low1.toNat))
    (h2 : words value2 = some (.ofInt high2.toNat, .ofInt low2.toNat))
    (hq1 : rational value1 = some q1) (hq2 : rational value2 = some q2)
    (hlow : high1 = high2 → |q1 - q2| = |(low1.toNat : ℚ) - low2.toNat|) (deadband : Number.Double) :
    ReportsExactly value1 value2 (.finite deadband) ↔ FaithfulWords high1 high2 |q1 - q2| deadband.val := by
  have hcheck : ReportsExactly value1 value2 (.finite deadband) ↔
      (if high1 = high2 then decide (deadband.val < |(low1.toNat : ℚ) - low2.toNat|)
        else decide (deadband.val < apparentDistance high1 high2)) =
        decide (deadband.val < |q1 - q2|) := by
    unfold ReportsExactly
    rw [check_scalars h, compare_words hlarge h1 h2]
    constructor
    · rintro ⟨q1', q2', hq1', hq2', heq⟩
      obtain rfl := Option.some.inj (hq1.symm.trans hq1')
      obtain rfl := Option.some.inj (hq2.symm.trans hq2')
      exact Option.some.inj heq
    · intro heq
      exact ⟨q1, q2, hq1, hq2, congrArg some heq⟩
  rw [hcheck]
  unfold FaithfulWords
  by_cases heq : high1 = high2
  · rw [if_pos heq, hlow heq]
    simp [heq]
  · rw [if_neg heq, decide_eq_decide]
    simp only [heq, false_or, not_and, not_lt]
    constructor
    · intro hiff
      exact ⟨fun hle => not_lt.mp fun hlt => absurd (hiff.mpr hlt) hle.not_gt,
        fun hle => not_lt.mp fun hlt => absurd (hiff.mp hlt) hle.not_gt⟩
    · rintro ⟨hlow', hhigh'⟩
      exact ⟨fun hlt => not_le.mp fun hle => absurd (hhigh' hle) hlt.not_ge,
        fun hlt => not_le.mp fun hle => absurd (hlow' hle) hlt.not_ge⟩

end

lemma abs_toInt_le {w : ℕ} (hw : w ≤ 32) (value : BitVec w) : |value.toInt| ≤ 2 ^ 33 := by
  have hpow : 2 ^ w ≤ 2 ^ 32 := Nat.pow_le_pow_right (by norm_num) hw
  rw [BitVec.toInt_eq_toNat_cond, abs_le]
  split <;> omega

lemma abs_toNat_le {w : ℕ} (hw : w ≤ 32) (value : BitVec w) : |(value.toNat : ℤ)| ≤ 2 ^ 33 := by
  have hpow : 2 ^ w ≤ 2 ^ 32 := Nat.pow_le_pow_right (by norm_num) hw
  rw [abs_le]
  omega

/-- **Where the check of two values is exact.** -/
theorem reportsExactly_iff_faithful {value1 value2 : Element U X}
    (h : value1.dataType = value2.dataType) (hnumeric : IsNumeric value1.dataType)
    {deadband : Number.Double} (hd : 0 ≤ deadband.val) :
    ReportsExactly value1 value2 (.finite deadband) ↔ Faithful value1 value2 deadband.val := by
  cases value1 with
  | sByte | int16 | int32 =>
    cases value2 <;> first
      | cases h; done
      | exact iff_of_true (reportsExactly_integers h (by simp [Element.dataType]) rfl rfl rfl rfl
          (abs_toInt_le (by norm_num) _) (abs_toInt_le (by norm_num) _) deadband) trivial
  | byte | uint16 | uint32 =>
    cases value2 <;> first
      | cases h; done
      | exact iff_of_true (reportsExactly_integers h (by simp [Element.dataType]) rfl rfl
          (by simp [rational]) (by simp [rational]) (abs_toNat_le (by norm_num) _)
          (abs_toNat_le (by norm_num) _) deadband) trivial
  | int64 | uint64 =>
    cases value2 <;> first
      | cases h; done
      | refine reportsExactly_words h (by simp [Element.dataType]) rfl rfl rfl rfl ?_ deadband
        rintro rfl
        rw [add_sub_add_left_eq_sub]
  | float n1 | double n1 =>
    cases value2 <;> first
      | cases h; done
      | refine reportsExactly_numbers h (by simp [Element.dataType]) rfl rfl (fun q => ?_)
          (fun q => ?_) hd
        · cases n1 <;> simp [rational]
        · rename_i n2
          cases n2 <;> simp [rational]
  | _ => exact absurd hnumeric (by simp [IsNumeric, Element.dataType])

/-! ### Arrays -/

/-- **Where the check does not throw**: the difference of two doubles is finite. -/
def Comparable (value1 value2 : Element U X) : Prop :=
  match value1, value2 with
  | .float value1, .float value2 | .double value1, .double value2 =>
    ∃ x y : Number.Double, value1 = .finite x ∧ value2 = .finite y ∧
      roundDouble |x.val - y.val| < 2 ^ 1024
  | _, _ => True

lemma finite_of_sub {n1 n2 : Number} (h : (n2.sub n1).isFinite = true) :
    ∃ x y : Number.Double, n1 = .finite x ∧ n2 = .finite y := by
  rcases n1 with _ | (_ | _) | x <;> rcases n2 with _ | (_ | _) | y <;>
    first | exact ⟨_, _, rfl, rfl⟩ | cases h

lemma compare_eq_none_iff (n1 n2 : Number) (deadband : Number.Double) :
    (if (n2.sub n1).isFinite then some ((Number.finite deadband).lt (n2.sub n1).abs) else none) =
      none ↔ ¬ ∃ x y : Number.Double, n1 = .finite x ∧ n2 = .finite y ∧
        roundDouble |x.val - y.val| < 2 ^ 1024 := by
  by_cases hfin : (n2.sub n1).isFinite = true
  · obtain ⟨x, y, rfl, rfl⟩ := finite_of_sub hfin
    rw [compare_doubles]
    constructor
    · rintro hnone ⟨x', y', hx, hy, hlt⟩
      obtain rfl := Number.finite.inj hx
      obtain rfl := Number.finite.inj hy
      rw [if_pos hlt] at hnone
      cases hnone
    · intro hnot
      exact if_neg fun hlt => hnot ⟨x, y, rfl, rfl, hlt⟩
  · rw [if_neg hfin]
    refine iff_of_true rfl ?_
    rintro ⟨x, y, rfl, rfl, hlt⟩
    have hsome := compare_doubles x y deadband
    rw [if_neg hfin, if_pos hlt] at hsome
    cases hsome

/-- **The values for which a check throws.** -/
theorem scalar_eq_none_iff (h : value1.dataType = value2.dataType)
    (hnumeric : IsNumeric value1.dataType) (hd : 0 ≤ deadband.val) :
    isOutsideDeadbandAbsolute (.scalar value1) (.scalar value2) (.finite deadband) = none ↔
      ¬ Comparable value1 value2 := by
  have hexact := reportsExactly_iff_faithful h hnumeric hd
  -- an exact check has a result
  have hinteger : Faithful value1 value2 deadband.val → Comparable value1 value2 →
      (isOutsideDeadbandAbsolute (.scalar value1) (.scalar value2) (.finite deadband) = none ↔
        ¬ Comparable value1 value2) := by
    intro hfaith hcmp
    obtain ⟨q1, q2, -, -, hcheck⟩ := hexact.mpr hfaith
    rw [hcheck]
    exact iff_of_false nofun (not_not.mpr hcmp)
  cases value1 with
  | float | double =>
    cases value2 <;> first
      | cases h; done
      | rw [check_scalars h, _isOutsideDeadbandScalar, if_neg (by simp [Element.dataType])]
        exact compare_eq_none_iff _ _ deadband
  | int64 | uint64 =>
    cases value2 <;> first
      | cases h; done
      | rw [(check_scalars h deadband).trans
          (compare_words (by simp [Element.dataType]) (show words _ = _ from rfl)
            (show words _ = _ from rfl) deadband)]
        exact iff_of_false nofun (not_not.mpr trivial)
  | sByte | byte | int16 | uint16 | int32 | uint32 => exact hinteger trivial trivial
  | _ => exact absurd hnumeric (by simp [IsNumeric, Element.dataType])

/-- **A change is reported for an array when it is for one of its elements**, unless the check throws
for an element before. -/
lemma elements_iff (dataType : DataType) (deadband : Number)
    (pairs : List (Element U X × Element U X)) :
    (isOutsideDeadbandElements dataType deadband pairs = some true ↔
      ∃ pair ∈ pairs, _isOutsideDeadbandScalar pair.1 pair.2 dataType deadband = some true) ↔
    ∀ before pair after, pairs = before ++ pair :: after →
      _isOutsideDeadbandScalar pair.1 pair.2 dataType deadband = none →
      (∃ p ∈ after, _isOutsideDeadbandScalar p.1 p.2 dataType deadband = some true) →
      ∃ p ∈ before, _isOutsideDeadbandScalar p.1 p.2 dataType deadband = some true := by
  induction pairs with
  | nil =>
    refine iff_of_true ?_ ?_
    · simp [isOutsideDeadbandElements]
    · intro before pair after h
      cases before <;> cases h
  | cons first rest ih =>
    obtain ⟨value1, value2⟩ := first
    cases hfirst : _isOutsideDeadbandScalar value1 value2 dataType deadband with
    | none =>
      simp only [isOutsideDeadbandElements, hfirst, reduceCtorEq, false_iff, List.mem_cons]
      constructor
      · rintro hnone before pair after hsplit hthrows ⟨p, hp, hreports⟩
        refine absurd ⟨p, ?_, hreports⟩ hnone
        cases before with
        | nil =>
          obtain ⟨-, rfl⟩ := List.cons.inj hsplit
          exact .inr hp
        | cons q before =>
          obtain ⟨-, rfl⟩ := List.cons.inj hsplit
          exact .inr (List.mem_append_right _ (List.mem_cons_of_mem _ hp))
      · rintro hbefore ⟨p, rfl | hp, hreports⟩
        · rw [hfirst] at hreports
          cases hreports
        · obtain ⟨q, hq, -⟩ := hbefore [] _ rest rfl hfirst ⟨p, hp, hreports⟩
          exact absurd hq List.not_mem_nil
    | some reports =>
      cases reports with
      | true =>
        refine iff_of_true ?_ ?_
        · simp only [isOutsideDeadbandElements, hfirst, true_iff]
          exact ⟨_, mem_cons_self, hfirst⟩
        · intro before pair after hsplit hthrows _
          cases before with
          | nil =>
            obtain ⟨rfl, -⟩ := List.cons.inj hsplit
            rw [hfirst] at hthrows
            cases hthrows
          | cons q before =>
            obtain ⟨rfl, -⟩ := List.cons.inj hsplit
            exact ⟨_, mem_cons_self, hfirst⟩
      | false =>
        have hrest : (∃ pair ∈ (value1, value2) :: rest,
            _isOutsideDeadbandScalar pair.1 pair.2 dataType deadband = some true) ↔
            ∃ pair ∈ rest, _isOutsideDeadbandScalar pair.1 pair.2 dataType deadband = some true := by
          simp [hfirst]
        rw [hrest]
        simp only [isOutsideDeadbandElements, hfirst]
        rw [ih]
        constructor
        · intro hbefore before pair after hsplit hthrows hafter
          cases before with
          | nil =>
            obtain ⟨rfl, -⟩ := List.cons.inj hsplit
            rw [hfirst] at hthrows
            cases hthrows
          | cons q before =>
            obtain ⟨-, hsplit⟩ := List.cons.inj hsplit
            obtain ⟨p, hp, hreports⟩ := hbefore before pair after hsplit hthrows hafter
            exact ⟨p, List.mem_cons_of_mem _ hp, hreports⟩
        · intro hbefore before pair after hsplit hthrows hafter
          obtain ⟨p, hp, hreports⟩ :=
            hbefore ((value1, value2) :: before) pair after (by rw [hsplit]; rfl) hthrows hafter
          rcases List.mem_cons.mp hp with rfl | hp
          · rw [hfirst] at hreports
            cases hreports
          · exact ⟨p, hp, hreports⟩

lemma check_arrays {v1 v2 : Variant U X} {elements1 elements2 : List (Element U X)}
    (h1 : elements v1 = some elements1) (h2 : elements v2 = some elements2)
    (htype : v1.dataType = v2.dataType) (hlen : elements1.length = elements2.length)
    (deadband : Number.Double) :
    isOutsideDeadbandAbsolute v1 v2 (.finite deadband) =
      isOutsideDeadbandElements v1.dataType (.finite deadband) (elements1.zip elements2) := by
  have harray : isOutsideDeadbandArray elements1 v2 v1.dataType (.finite deadband) =
      isOutsideDeadbandElements v1.dataType (.finite deadband) (elements1.zip elements2) := by
    cases v2 with
    | scalar value => cases h2
    | array dataType value =>
      obtain rfl : value = some elements2 := h2
      exact if_neg (not_not.mpr hlen)
    | matrix dataType value dimensions =>
      obtain rfl := Option.some.inj h2
      exact if_neg (not_not.mpr hlen)
  unfold isOutsideDeadbandAbsolute isOutsideDeadbandVariant
  rw [if_neg (by simp [Number.isFinite]), if_neg (not_not.mpr htype)]
  cases v1 with
  | scalar value => cases h1
  | array dataType value =>
    obtain rfl : value = some elements1 := h1
    exact harray
  | matrix dataType value dimensions =>
    obtain rfl := Option.some.inj h1
    exact harray

lemma check_not_finite {v1 v2 : Variant U X} {deadband : Number} (h : deadband.isFinite = false) :
    isOutsideDeadbandAbsolute v1 v2 deadband = none := by
  unfold isOutsideDeadbandAbsolute isOutsideDeadbandVariant
  rw [if_pos (by rw [h]; rfl)]

lemma apparentDistance_one : apparentDistance 1 0 = 4294967295 := by
  have hround := Number.roundDouble_eq_self (m := 4294967295) (e := 0) (by norm_num) (by norm_num)
    (by norm_num)
  have hvalue : |(((1 : BitVec 32).toNat : ℚ) - (0 : BitVec 32).toNat) * 4294967295| =
      ((4294967295 : ℤ) : ℚ) * 2 ^ (0 : ℤ) := by
    rw [show (1 : BitVec 32).toNat = 1 from rfl, show (0 : BitVec 32).toNat = 0 from rfl]
    norm_num
  rw [apparentDistance, hvalue, hround]
  norm_num

end NodeOpcua.Deadband
