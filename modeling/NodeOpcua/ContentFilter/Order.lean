import NodeOpcua.ContentFilter.Evaluation
import NodeOpcua.Library.NumberArithmetic

set_option autoImplicit false

/-!
# The order of values in a filter

The operators that compare two operands, beside the order of the values that they are.

## Main definitions

* `HasOrder`, `OperatorsAgree`.
-/

namespace NodeOpcua

open BuiltIn
open Number (extended strictEq)

variable {U : CaseMapping} {X : Type}

/-! ### The order of values -/

/-- The value of a number or a date, as an extended rational number. -/
def magnitude : Element U X → Option (WithBot (WithTop ℚ))
  | .sByte value => some (((value.toInt : ℚ) : WithTop ℚ))
  | .byte value => some (((value.toNat : ℚ) : WithTop ℚ))
  | .int16 value => some (((value.toInt : ℚ) : WithTop ℚ))
  | .uint16 value => some (((value.toNat : ℚ) : WithTop ℚ))
  | .int32 value => some (((value.toInt : ℚ) : WithTop ℚ))
  | .uint32 value => some (((value.toNat : ℚ) : WithTop ℚ))
  | .int64 high low => some (((4294967296 * high.toInt + low.toNat : ℚ) : WithTop ℚ))
  | .uint64 high low => some (((4294967296 * high.toNat + low.toNat : ℚ) : WithTop ℚ))
  | .float value | .double value => if value = .nan then none else some value.extended
  | .dateTime (some date) => some (((date.getTime : ℚ) : WithTop ℚ))
  | _ => none

/-- The order of two values, when one is less than the other or they are equal. -/
inductive Compares {α : Type} [LT α] (x y : α) : Ordering → Prop
  | lt (h : x < y) : Compares x y .lt
  | eq (h : x = y) : Compares x y .eq
  | gt (h : y < x) : Compares x y .gt

/-- **How two values of one ordered data type compare**: numbers that are not `NaN` and dates by
their magnitude, texts by their code units. -/
inductive HasOrder : Element U X → Element U X → Ordering → Prop
  | magnitude {a b : Element U X} {x y : WithBot (WithTop ℚ)} {o : Ordering}
    (htype : a.dataType = b.dataType) (hx : magnitude a = some x) (hy : magnitude b = some y)
    (h : Compares x y o) : HasOrder a b o
  | text {s t : String} {o : Ordering} (h : Compares (codeUnits s) (codeUnits t) o) :
    HasOrder (.string (some s)) (.string (some t)) o

/-! ### Exact comparisons -/

variable {o : Ordering}

lemma Compares.iff {α : Type} [LinearOrder α] {x y : α} (h : Compares x y o) :
    (x < y ↔ o = .lt) ∧ (x = y ↔ o = .eq) ∧ (y < x ↔ o = .gt) := by
  cases h with
  | lt h => simp [h, h.not_gt, h.ne]
  | eq h => simp [h]
  | gt h => simp [h, h.not_gt, h.ne']

/-- Two comparables, and the test for equality, answer what the order says. -/
structure Exactly (x y : Comparable) (equal : Bool) (o : Ordering) : Prop where
  lt : x.lessThan y = true ↔ o = .lt
  eq : equal = true ↔ o = .eq
  gt : y.lessThan x = true ↔ o = .gt
  le : x.lessThanOrEqual y = !y.lessThan x
  ge : y.lessThanOrEqual x = !x.lessThan y

lemma extended_inj {x y : Number} (hx : x ≠ .nan) (hy : y ≠ .nan) (h : extended x = extended y) :
    x = y := by
  rcases x with _ | (_ | _) | ⟨x, _⟩ <;> rcases y with _ | (_ | _) | ⟨y, _⟩ <;>
    simp_all [extended]

/-- **Numbers** are compared exactly. -/
lemma exactly_number {x y : Number} (hx : x ≠ .nan) (hy : y ≠ .nan)
    (h : Compares (extended x) (extended y) o) :
    Exactly (.number x) (.number y) (strictEq x y) o where
  lt := (Number.lt_iff_extended hx hy).trans h.iff.1
  eq := by
    rw [← h.iff.2.1]
    simp only [strictEq, Bool.and_eq_true, decide_eq_true_eq]
    exact ⟨fun h => congrArg extended h.2, fun h => ⟨hx, extended_inj hx hy h⟩⟩
  gt := (Number.lt_iff_extended hy hx).trans h.iff.2.2
  le := by simp [Comparable.lessThanOrEqual, Comparable.lessThan, Number.ge, Comparable.toNumber, hx, hy]
  ge := by simp [Comparable.lessThanOrEqual, Comparable.lessThan, Number.ge, Comparable.toNumber, hx, hy]

lemma codeUnits_char {c d : Char} {xs ys : List ℕ}
    (h : (if c.toNat < 0x10000 then [c.toNat]
      else [0xd800 + (c.toNat - 0x10000) / 0x400, 0xdc00 + (c.toNat - 0x10000) % 0x400]) ++ xs =
      (if d.toNat < 0x10000 then [d.toNat]
      else [0xd800 + (d.toNat - 0x10000) / 0x400, 0xdc00 + (d.toNat - 0x10000) % 0x400]) ++ ys) :
    c = d ∧ xs = ys := by
  have hc : c.toNat < 0xd800 ∨ 0xdfff < c.toNat ∧ c.toNat < 0x110000 := c.valid
  have hd : d.toNat < 0xd800 ∨ 0xdfff < d.toNat ∧ d.toNat < 0x110000 := d.valid
  rw [← Char.toNat_inj]
  split_ifs at h <;> simp only [List.cons_append, List.nil_append, List.cons.injEq] at h
  · exact h
  -- a unit of a pair is no character by itself
  · omega
  · omega
  · exact ⟨by omega, h.2.2⟩

/-- **Texts with the same code units** are equal. -/
lemma codeUnits_inj {s t : String} (h : codeUnits s = codeUnits t) : s = t := by
  rw [← String.toList_inj]
  unfold codeUnits at h
  generalize s.toList = cs at h ⊢
  generalize t.toList = ds at h ⊢
  induction cs generalizing ds with
  | nil =>
    cases ds with
    | nil => rfl
    | cons d ds =>
      rw [List.flatMap_cons] at h
      split_ifs at h <;> cases h
  | cons c cs ih =>
    cases ds with
    | nil =>
      rw [List.flatMap_cons] at h
      split_ifs at h <;> cases h
    | cons d ds =>
      obtain ⟨rfl, hrest⟩ := codeUnits_char h
      rw [ih _ hrest]

/-- **Texts** are compared exactly. -/
lemma exactly_text {s t : String} (h : Compares (codeUnits s) (codeUnits t) o) :
    Exactly (.text s) (.text t) (Primitive.strictEqual (.text s) (.text t)) o where
  lt := decide_eq_true_iff.trans h.iff.1
  eq := by
    have hequal : Primitive.strictEqual (.text s) (.text t) = (Primitive.text s == .text t) := rfl
    rw [← h.iff.2.1, hequal, beq_iff_eq, Primitive.text.injEq]
    exact ⟨congrArg _, codeUnits_inj⟩
  gt := decide_eq_true_iff.trans h.iff.2.2
  le := rfl
  ge := rfl

/-! ### The operators -/

variable (objects : Objects U X) (filterContext : FilterContext U X) (check : ℤ → Evaluation Bool)

/-- **The operators on two operands** answer what the order says. -/
def OperatorsAgree (a b : Option (FilterOperand U X)) (o : Ordering) : Prop :=
  checkLessThan objects filterContext check [a, b] = finished (.ok (decide (o = .lt))) ∧
  checkEquals objects filterContext check [a, b] = finished (.ok (decide (o = .eq))) ∧
  checkGreaterThan objects filterContext check [a, b] = finished (.ok (decide (o = .gt))) ∧
  checkLessThanOrEqual objects filterContext check [a, b] = finished (.ok (decide (o ≠ .gt))) ∧
  checkGreaterThanOrEqual objects filterContext check [a, b] = finished (.ok (decide (o ≠ .lt)))

variable {objects filterContext check} {a : Element U X}

lemma evaluateOperand_variant {operand : Option (FilterOperand U X)} {α : Type}
    (h : operandValue filterContext operand = .variant (.scalar a))
    (coerce : Evaluated U X → Except FilterError α) :
    evaluateOperand filterContext check operand coerce =
      finished (coerce (.variant (.scalar a))) := by
  rcases operand with _ | (_ | _ | _ | _ | _) <;> simp_all [operandValue, evaluateOperand]

lemma extended_ofInt {n : ℤ} (h : |n| ≤ 2 ^ 53) :
    extended (.ofInt n) = ((n : ℚ) : WithTop ℚ) ∧ Number.ofInt n ≠ .nan := by
  obtain ⟨x, hx, hxn⟩ := Number.ofInt_exact h
  rw [hx]
  exact ⟨by rw [extended, hxn], nofun⟩

lemma extended_ofNat {n : ℕ} (h : n ≤ 2 ^ 53) :
    extended (.ofNat n) = ((n : ℚ) : WithTop ℚ) ∧ Number.ofNat n ≠ .nan := by
  obtain ⟨x, hx, hxn⟩ := Number.ofNat_exact h
  rw [hx]
  exact ⟨by rw [extended, hxn], nofun⟩

variable {x : WithBot (WithTop ℚ)}

lemma converted_number (hx : magnitude a = some x)
    (htype : a.dataType ∉ [DataType.float, .int64, .uint64, .dateTime]) :
    ∃ n, n ≠ .nan ∧ extended n = x ∧ a.primitive = some (.number n) ∧
      coerceToCompareable objects (.variant (.scalar a)) = .ok (.number n) ∧
      ∀ b, isSameValue objects (.scalar a) b = .ok (strictEqual objects (.scalar a) b) := by
  have hsigned {w : ℕ} (v : BitVec w) (hw : w ≤ 53) : |v.toInt| ≤ 2 ^ 53 := by
    have hle : 2 ^ w ≤ 2 ^ 53 := Nat.pow_le_pow_right (by omega) hw
    rw [abs_le, BitVec.toInt_eq_toNat_cond]
    split_ifs <;> constructor <;> omega
  have hunsigned {w : ℕ} (v : BitVec w) (hw : w ≤ 53) : v.toNat ≤ 2 ^ 53 :=
    v.isLt.le.trans (Nat.pow_le_pow_right (by omega) hw)
  cases a with
  | sByte v | int16 v | int32 v =>
    cases hx
    obtain ⟨hv, hnan⟩ := extended_ofInt (hsigned v (by omega))
    exact ⟨_, hnan, hv, rfl, rfl, fun _ => rfl⟩
  | byte v | uint16 v | uint32 v =>
    cases hx
    obtain ⟨hv, hnan⟩ := extended_ofNat (hunsigned v (by omega))
    exact ⟨_, hnan, hv, rfl, rfl, fun _ => rfl⟩
  | double v =>
    rw [magnitude, ite_eq_iff] at hx
    obtain ⟨-, hx⟩ | ⟨hnan, hx⟩ := hx
    · cases hx
    · exact ⟨v, hnan, Option.some.inj hx, rfl, rfl, fun _ => rfl⟩
  | float | int64 | uint64 | dateTime => simp [Element.dataType] at htype
  | _ => cases hx

lemma exists_date (hx : magnitude a = some x) (h : a.dataType = .dateTime) :
    ∃ date, a = .dateTime (some date) ∧ x = ((date.getTime : ℚ) : WithTop ℚ) := by
  cases a with
  | dateTime date =>
    cases date with
    | none => cases hx
    | some date => exact ⟨date, rfl, (Option.some.inj hx).symm⟩
  | _ => cases h

variable (objects) in
/-- **The values of a data type that is converted** are compared exactly. -/
lemma HasOrder.exactly {a b : Element U X} (h : HasOrder a b o)
    (htype : a.dataType ∉ [DataType.float, .int64, .uint64]) :
    ∃ x y equal, coerceToCompareable objects (.variant (.scalar a)) = .ok x ∧
      coerceToCompareable objects (.variant (.scalar b)) = .ok y ∧
      isSameValue objects (.scalar a) (.scalar b) = .ok equal ∧ Exactly x y equal o := by
  cases h with
  | text h => exact ⟨.text _, .text _, _, rfl, rfl, rfl, exactly_text h⟩
  | magnitude hsame hx hy h =>
    by_cases hdate : a.dataType = .dateTime
    · obtain ⟨date, rfl, rfl⟩ := exists_date hx hdate
      obtain ⟨date', rfl, rfl⟩ := exists_date hy (hsame ▸ hdate)
      have htime (d : Date) : |d.getTime| ≤ 2 ^ 53 := by
        have := d.valid
        rw [abs_le]
        constructor <;> omega
      obtain ⟨hv, hnan⟩ := extended_ofInt (htime date)
      obtain ⟨hv', hnan'⟩ := extended_ofInt (htime date')
      have hexact := exactly_number hnan hnan' (by rwa [hv, hv'])
      refine ⟨_, _, _, rfl, rfl, rfl, { hexact with eq := ?_ }⟩
      simpa using h.iff.2.1
    · have hother : a.dataType ∉ [DataType.float, .int64, .uint64, .dateTime] := by
        simpa [hdate] using htype
      obtain ⟨n, hn, rfl, hprimitive, hcoerce, hequal⟩ := converted_number hx hother
      obtain ⟨m, hm, rfl, hprimitive', hcoerce', -⟩ := converted_number hy (hsame ▸ hother)
      refine ⟨_, _, _, hcoerce, hcoerce', hequal _, ?_⟩
      simp only [strictEqual, Variant.primitive, hprimitive, hprimitive']
      exact exactly_number hn hm h

section

variable {a b : Option (FilterOperand U X)} {x y : Element U X} {o : Ordering}
  (ha : operandValue filterContext a = .variant (.scalar x))
  (hb : operandValue filterContext b = .variant (.scalar y))

include ha hb

/-- **The operators** on two operands that are variants. -/
lemma operatorsAgree_iff {cx cy : Comparable} {equal : Bool}
    (hx : coerceToCompareable objects (.variant (.scalar x)) = .ok cx)
    (hy : coerceToCompareable objects (.variant (.scalar y)) = .ok cy)
    (hequal : isSameValue objects (.scalar x) (.scalar y) = .ok equal) :
    OperatorsAgree objects filterContext check a b o ↔
      cx.lessThan cy = decide (o = .lt) ∧ equal = decide (o = .eq) ∧
        cy.lessThan cx = decide (o = .gt) ∧ cx.lessThanOrEqual cy = decide (o ≠ .gt) ∧
        cy.lessThanOrEqual cx = decide (o ≠ .lt) := by
  have hcompare (compare : Comparable → Comparable → Bool) :
      checkComparison objects filterContext check [a, b] compare = finished (.ok (compare cx cy)) := by
    simp only [checkComparison, operandAt, List.getElem?_cons_zero, List.getElem?_cons_succ,
      Option.join_some, evaluateOperand_variant ha, evaluateOperand_variant hb, hx, hy]
    rfl
  have hequals : checkEquals objects filterContext check [a, b] = finished (.ok equal) := by
    simp only [checkEquals, operandAt, List.getElem?_cons_zero, List.getElem?_cons_succ,
      Option.join_some, evaluateOperand_variant ha, evaluateOperand_variant hb]
    exact congrArg finished hequal
  have hinj {p q : Bool} : finished (.ok p) = finished (.ok q) ↔ p = q :=
    ⟨fun h => Except.ok.inj (Option.some.inj h), fun h => by rw [h]⟩
  simp only [OperatorsAgree, checkLessThan, checkGreaterThan, checkLessThanOrEqual,
    checkGreaterThanOrEqual, hcompare, hequals, hinj]

lemma empty_disagrees (hx : x.dataType ∈ [DataType.float, .int64, .uint64])
    (htype : x.dataType = y.dataType) : ¬ OperatorsAgree objects filterContext check a b o := by
  have hempty {z : Element U X} (hz : z.dataType ∈ [DataType.float, .int64, .uint64]) :
      coerceToCompareable objects (.variant (.scalar z)) = .ok (.text "") ∧
        isSameValue objects (.scalar z) (.scalar y) = .ok false := by
    cases z <;> simp [Element.dataType] at hz <;> exact ⟨rfl, rfl⟩
  rw [operatorsAgree_iff ha hb (hempty hx).1 (hempty (htype ▸ hx)).1 (hempty hx).2]
  cases o <;> decide

end

lemma HasOrder.dataType {a b : Element U X} (h : HasOrder a b o) :
    a.dataType = b.dataType := by
  cases h with
  | magnitude htype => exact htype
  | text => rfl

/-- **The operators and the order**: on two operands, and on an operand and the bounds of an
interval, they agree unless the values are floats or integers of 64 bits. -/
theorem comparisons_agree_iff (objects : Objects U X) (filterContext : FilterContext U X)
    (check : ℤ → Evaluation Bool) (operand low high : Option (FilterOperand U X))
    (x a b : Element U X) (o o' : Ordering)
    (hopd : operandValue filterContext operand = .variant (.scalar x))
    (hlow : operandValue filterContext low = .variant (.scalar a))
    (hhigh : operandValue filterContext high = .variant (.scalar b))
    (ha : HasOrder x a o) (hb : HasOrder x b o') :
    OperatorsAgree objects filterContext check operand low o ∧
        OperatorsAgree objects filterContext check operand high o' ∧
        checkBetween objects filterContext check [operand, low, high] =
          finished (.ok (decide (o ≠ .lt ∧ o' ≠ .gt))) ↔
      x.dataType ∉ [DataType.float, .int64, .uint64] := by
  constructor
  · rintro ⟨hagree, -⟩ htype
    exact empty_disagrees hopd hlow htype ha.dataType hagree
  intro htype
  obtain ⟨cx, ca, equal, hcx, hca, hequal, hexact⟩ := ha.exactly objects htype
  obtain ⟨cx', cb, equal', hcx', hcb, hequal', hexact'⟩ := hb.exactly objects htype
  obtain rfl : cx = cx' := Except.ok.inj (hcx.symm.trans hcx')
  have hagree {c d : Comparable} {e : Bool} {p : Ordering} (h : Exactly c d e p) :
      c.lessThan d = decide (p = .lt) ∧ e = decide (p = .eq) ∧ d.lessThan c = decide (p = .gt) ∧
        c.lessThanOrEqual d = decide (p ≠ .gt) ∧ d.lessThanOrEqual c = decide (p ≠ .lt) := by
    have hlt : c.lessThan d = decide (p = .lt) := Bool.eq_iff_iff.mpr (by simpa using h.lt)
    have hgt : d.lessThan c = decide (p = .gt) := Bool.eq_iff_iff.mpr (by simpa using h.gt)
    refine ⟨hlt, Bool.eq_iff_iff.mpr (by simpa using h.eq), hgt, ?_, ?_⟩
    · rw [h.le, hgt, ← decide_not]
    · rw [h.ge, hlt, ← decide_not]
  refine ⟨(operatorsAgree_iff hopd hlow hcx hca hequal).mpr (hagree hexact),
    (operatorsAgree_iff hopd hhigh hcx hcb hequal').mpr (hagree hexact'), ?_⟩
  simp only [checkBetween, operandAt, List.getElem?_cons_zero, List.getElem?_cons_succ,
    Option.join_some, evaluateOperand_variant hopd, evaluateOperand_variant hlow,
    evaluateOperand_variant hhigh, hcx, hca, hcb]
  rw [Bool.decide_and, ← (hagree hexact).2.2.2.2, ← (hagree hexact').2.2.2.1]
  rfl

/-- The operators on 3, with the interval from 2 to 3. -/
theorem comparisons_agree_int32 :
    let operand (value : BitVec 32) : Option (FilterOperand .ascii Unit) :=
      some (.literalOperand (.scalar (.int32 value)))
    OperatorsAgree emptyTexts emptyContext (fun _ => finished (.ok true)) (operand 3) (operand 2) .gt ∧
      OperatorsAgree emptyTexts emptyContext (fun _ => finished (.ok true)) (operand 3) (operand 3) .eq ∧
      checkBetween emptyTexts emptyContext (fun _ => finished (.ok true))
        [operand 3, operand 2, operand 3] = finished (.ok true) :=
  (comparisons_agree_iff emptyTexts emptyContext (fun _ => finished (.ok true)) _ _ _ (.int32 3)
    (.int32 2) (.int32 3) .gt .eq rfl rfl rfl
    (.magnitude rfl rfl rfl (.gt (by
      exact_mod_cast (by decide : (2 : BitVec 32).toInt < (3 : BitVec 32).toInt))))
    (.magnitude rfl rfl rfl (.eq rfl))).mpr (by decide)

/-- **Two integers of 64 bits** are neither less, nor equal, nor greater. -/
theorem comparisons_disagree :
    ¬ ∀ (x a : Element .ascii Unit) (o : Ordering), HasOrder x a o →
      OperatorsAgree emptyTexts emptyContext (fun _ => finished (.ok true))
        (some (.literalOperand (.scalar x))) (some (.literalOperand (.scalar a))) o :=
  fun h => empty_disagrees rfl rfl (by decide) rfl
    (h (.uint64 0 1) (.uint64 0 1) .eq (.magnitude rfl rfl rfl (.eq rfl)))

end NodeOpcua
