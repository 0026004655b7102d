import NodeOpcua.ContentFilter.Comparison

set_option autoImplicit false

/-!
# Integers of 64 bits

The coercion of a value to the two words of a 64-bit integer, and the integer that two words stand
for.

## Main definitions

* `coerceUInt64`, `coerceInt64`.
* `Int64ToBigInt`, `UInt64ToBigInt`.
-/

namespace NodeOpcua

/-! ### The source -/

/-- A number that is a safe integer: the arithmetic of the coercion is exact on it. -/
structure SafeInteger where
  /-- Its value. -/
  val : ℤ
  /-- It is safe. -/
  safe : |val| ≤ 9007199254740991

/-- What is coerced to a 64-bit integer. -/
inductive UInt64Like
  | null
  | array (high low : ℤ)
  | string (value : List Char)
  | number (value : SafeInteger)

/-- Digits to a base, without a sign. -/
def readBigDigits (base : ℕ) (cs : List Char) : Option ℤ :=
  if cs ≠ [] ∧ cs.all (fun c => (digitValue c).getD base < base) then
    some (cs.foldl (fun v c => base * v + (digitValue c).getD 0) 0 : ℕ)
  else none

/-- Decimal digits, without a sign. -/
def readDecimalDigits (cs : List Char) : Option ℤ :=
  if cs ≠ [] ∧ cs.all Char.isDigit then some (ofDecimal cs) else none

/-- `BigInt(value)`, for a string; it throws when the string is no integer. -/
def BigInt (value : List Char) : Option ℤ :=
  match trim value with
  | [] => some 0
  | '0' :: 'x' :: cs | '0' :: 'X' :: cs => readBigDigits 16 cs
  | '0' :: 'o' :: cs | '0' :: 'O' :: cs => readBigDigits 8 cs
  | '0' :: 'b' :: cs | '0' :: 'B' :: cs => readBigDigits 2 cs
  | '-' :: cs => (readDecimalDigits cs).map (- ·)
  | '+' :: cs => readDecimalDigits cs
  | cs => readDecimalDigits cs

/-- `constructInt64`; `none` is an assertion that fails. -/
def constructInt64 (high low : ℤ) : Option (ℤ × ℤ) :=
  let (high, low) := if high = 0 ∧ low < 0 then (0xffffffff, 0xffffffff + low + 1) else (high, low)
  if (0 ≤ low ∧ low ≤ 0xffffffff) ∧ 0 ≤ high ∧ high ≤ 0xffffffff then some (high, low) else none

/-- **The coercion** to the high and the low word. -/
def coerceUInt64 : UInt64Like → Option (ℤ × ℤ)
  | .null => some (0, 0)
  | .array high low => some (high, low)
  | .string value =>
    match value.splitOn ',' with
    | [_] => do
      let a ← BigInt value
      -- `& mask` keeps the 64 bits of the two's complement
      let a := if a < 0 then (0xFFFFFFFFFFFFFFFF + a + 1) % 2 ^ 64 else a
      constructInt64 (a / 2 ^ 32) (a % 2 ^ 32)
    | high :: low :: _ => do constructInt64 (← parseInt high) (← parseInt low)
    | [] => none
  | .number value =>
    if value.val > 0xffffffff then
      constructInt64 (value.val / 2 ^ 32) (value.val - value.val / 2 ^ 32 * 2 ^ 32)
    else constructInt64 0 value.val

/-- `coerceInt64` is the same function. -/
def coerceInt64 : UInt64Like → Option (ℤ × ℤ) := coerceUInt64

/-- `Int64ToBigInt`: the sign is bit 31 of the high word. -/
def Int64ToBigInt (words : ℤ × ℤ) : ℤ :=
  if words.1 / 2 ^ 31 % 2 = 1 then (words.1 - 2 ^ 31) * 2 ^ 32 + words.2 - 0x8000000000000000
  else words.1 * 2 ^ 32 + words.2

/-- `UInt64ToBigInt`. -/
def UInt64ToBigInt (words : ℤ × ℤ) : ℤ := words.1 * 2 ^ 32 + words.2

/-! ### Exactness -/

/-- A string of digits, with or without a sign, and the integer that it denotes. -/
inductive Denotes : List Char → ℤ → Prop
  | unsigned {ds : List Char} (hne : ds ≠ []) (hds : ∀ c ∈ ds, c.isDigit) :
    Denotes ds (ofDecimal ds)
  | minus {ds : List Char} (hne : ds ≠ []) (hds : ∀ c ∈ ds, c.isDigit) :
    Denotes ('-' :: ds) (-ofDecimal ds)
  | plus {ds : List Char} (hne : ds ≠ []) (hds : ∀ c ∈ ds, c.isDigit) :
    Denotes ('+' :: ds) (ofDecimal ds)

/-- The range of the integers, with or without a sign. -/
def InRange64 (signed : Bool) (v : ℤ) : Prop :=
  if signed then -2 ^ 63 ≤ v ∧ v < 2 ^ 63 else 0 ≤ v ∧ v < 2 ^ 64

instance (signed : Bool) (v : ℤ) : Decidable (InRange64 signed v) :=
  inferInstanceAs (Decidable (if signed then _ else _))

/-- A safe integer or a decimal string that is the integer `v` of the type. -/
def Represents (signed : Bool) (value : UInt64Like) (v : ℤ) : Prop :=
  InRange64 signed v ∧
    ((∃ n : SafeInteger, value = .number n ∧ n.val = v) ∨ ∃ s, value = .string s ∧ Denotes s v)

/-- **An exact coercion** does not throw; its words have 32 bits and stand for `v`, and are coerced
to themselves. -/
def CoercedExactly (signed : Bool) (value : UInt64Like) (v : ℤ) : Prop :=
  ∃ high low, (if signed then coerceInt64 else coerceUInt64) value = some (high, low) ∧
    (0 ≤ high ∧ high ≤ 2 ^ 32 - 1) ∧ (0 ≤ low ∧ low ≤ 2 ^ 32 - 1) ∧
    (if signed then Int64ToBigInt else UInt64ToBigInt) (high, low) = v ∧
    (if signed then coerceInt64 else coerceUInt64) (.array high low) = some (high, low)

lemma constructInt64_eq {high low : ℤ} (hhigh : 0 ≤ high ∧ high ≤ 0xffffffff)
    (hlow : 0 ≤ low ∧ low ≤ 0xffffffff) : constructInt64 high low = some (high, low) := by
  unfold constructInt64
  rw [if_neg (by omega)]
  exact if_pos ⟨hlow, hhigh⟩

lemma constructInt64_neg {low : ℤ} (h : low < 0) :
    constructInt64 0 low =
      if -2 ^ 32 ≤ low then some (0xffffffff, 0xffffffff + low + 1) else none := by
  simp only [constructInt64, h, and_self, if_true]
  exact if_congr (by omega) rfl rfl

variable {signed : Bool}

/-- The words of an integer modulo `2 ^ 64` stand for it. -/
lemma words_exact {value : UInt64Like} {v a : ℤ} (hv : InRange64 signed v)
    (ha : a = v % 2 ^ 64) (h : coerceUInt64 value = some (a / 2 ^ 32, a % 2 ^ 32)) :
    CoercedExactly signed value v := by
  have hcoerce : (if signed then coerceInt64 else coerceUInt64) = coerceUInt64 := by
    cases signed <;> rfl
  unfold CoercedExactly
  rw [hcoerce]
  refine ⟨_, _, h, by omega, by omega, ?_, rfl⟩
  cases signed with
  | false =>
    simp only [InRange64, Bool.false_eq_true, if_false, UInt64ToBigInt] at hv ⊢
    omega
  | true =>
    simp only [InRange64, if_true, Int64ToBigInt] at hv ⊢
    split_ifs <;> omega

/-- **A number** is coerced exactly from `-2 ^ 32` on; below, an assertion fails. -/
lemma number_exact_iff {n : SafeInteger} (hv : InRange64 signed n.val) :
    CoercedExactly signed (.number n) n.val ↔ -2 ^ 32 ≤ n.val := by
  obtain ⟨n, hsafe⟩ := n
  rw [abs_le] at hsafe
  simp only at hv ⊢
  constructor
  · rintro ⟨high, low, h, -⟩
    by_contra hlt
    have hcoerce : coerceUInt64 (.number ⟨n, abs_le.mpr hsafe⟩) = none := by
      simp only [coerceUInt64]
      rw [if_neg (by omega), constructInt64_neg (by omega), if_neg hlt]
    cases signed <;> simp [coerceInt64, hcoerce] at h
  · intro hge
    refine words_exact hv rfl ?_
    simp only [coerceUInt64]
    split_ifs with hlarge
    · rw [constructInt64_eq (by omega) (by omega)]
      congr 2 <;> omega
    · by_cases hneg : n < 0
      · rw [constructInt64_neg hneg, if_pos hge]
        congr 2 <;> omega
      · rw [constructInt64_eq (by omega) (by omega)]
        congr 2 <;> omega

lemma isDigit_chars {c : Char} (h : c.isDigit) : isWhiteSpace c = false ∧ c ≠ ',' := by
  have hall : ∀ n < 10, isWhiteSpace (Char.ofNat (48 + n)) = false ∧ Char.ofNat (48 + n) ≠ ',' := by
    decide
  simp only [Char.isDigit, Bool.and_eq_true, decide_eq_true_eq] at h
  have hle : 48 ≤ c.toNat := h.1
  have hge : c.toNat ≤ 57 := h.2
  have hc := hall (c.toNat - 48) (by omega)
  rwa [show 48 + (c.toNat - 48) = c.toNat by omega, Char.ofNat_toNat] at hc

variable {s : List Char}

lemma Denotes.chars {v : ℤ} (h : Denotes s v) :
    ∀ c ∈ s, isWhiteSpace c = false ∧ c ≠ ',' := by
  cases h with
  | unsigned hne hds => exact fun c hc => isDigit_chars (hds c hc)
  | minus hne hds | plus hne hds =>
    exact List.forall_mem_cons.mpr ⟨by decide, fun c hc => isDigit_chars (hds c hc)⟩

/-- **A decimal string** is read as the integer that it denotes. -/
lemma Denotes.bigInt {v : ℤ} (h : Denotes s v) : BigInt s = some v := by
  unfold BigInt
  rw [trim_eq_self (fun c hc => (h.chars c (List.mem_of_mem_head? hc)).1)
    fun c hc => (h.chars c (List.mem_of_mem_getLast? hc)).1]
  have hread {ds : List Char} (hne : ds ≠ []) (hds : ∀ c ∈ ds, c.isDigit) :
      readDecimalDigits ds = some (ofDecimal ds : ℤ) :=
    if_pos ⟨hne, List.all_eq_true.mpr hds⟩
  cases h with
  | unsigned hne hds =>
    split <;> simp at hne hds
    exact hread (by simpa using hne) (by simpa using hds)
  | minus hne hds | plus hne hds => simp [hread hne hds]

/-- **A decimal string** is coerced exactly. -/
lemma string_exact {v : ℤ} (hv : InRange64 signed v)
    (h : Denotes s v) : CoercedExactly signed (.string s) v := by
  have hsplit : s.splitOn ',' = [s] := by
    have hsplit : ([','].intercalate [s]).splitOn ',' = [s] :=
      List.splitOn_intercalate ',' (by simpa using fun hc => (h.chars ',' hc).2 rfl) (by simp)
    simpa using hsplit
  refine words_exact hv rfl ?_
  simp only [coerceUInt64, hsplit, h.bigInt, Option.bind_eq_bind, Option.bind_some]
  have hrange : -2 ^ 63 ≤ v ∧ v < 2 ^ 64 := by
    cases signed <;> simp only [InRange64, Bool.false_eq_true, if_false, if_true] at hv <;> omega
  split_ifs <;> rw [constructInt64_eq (by omega) (by omega)] <;> congr 2 <;> omega

/-- **The coercion of an integer of the type** is exact unless it is a number below `-2 ^ 32`. -/
theorem coerceInt64_exact_iff (signed : Bool) (value : UInt64Like) (v : ℤ)
    (h : Represents signed value v) :
    CoercedExactly signed value v ↔ ∀ n, value = .number n → -2 ^ 32 ≤ n.val := by
  obtain ⟨hv, ⟨n, rfl, rfl⟩ | ⟨s, rfl, hs⟩⟩ := h
  · rw [number_exact_iff hv]
    constructor
    · rintro hn m ⟨⟩
      exact hn
    · exact fun hn => hn n rfl
  · constructor
    · rintro - n ⟨⟩
    · exact fun _ => string_exact hv hs

/-- The coercion of -1, a number. -/
theorem coerceInt64_exact_minus_one :
    CoercedExactly true (.number ⟨-1, by decide⟩) (-1) :=
  (coerceInt64_exact_iff true _ _ ⟨by decide, .inl ⟨_, rfl, rfl⟩⟩).mpr (by rintro n ⟨⟩; decide)

/-- **The coercion of `-2 ^ 32 - 1`** throws. -/
theorem coerceInt64_not_exact :
    ¬ ∀ signed value v, Represents signed value v → CoercedExactly signed value v := by
  intro h
  obtain ⟨high, low, hwords, -⟩ := h true (.number ⟨-4294967297, by decide⟩) (-4294967297)
    ⟨by decide, .inl ⟨_, rfl, rfl⟩⟩
  simp [coerceInt64, coerceUInt64, constructInt64] at hwords

end NodeOpcua
