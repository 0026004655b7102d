import Mathlib.Data.List.Basic
import Mathlib.Tactic.IntervalCases

set_option autoImplicit false

/-!
# Base64

The encoding of RFC 4648 with padding, and a lenient decoder: it also accepts the URL-safe
alphabet, skips what is no digit and stops at the padding.

## Main definitions

* `Base64.encode`, `Base64.decode`.

## Design

The decoder first turns the text into the values of its digits, six bits each, and then joins
them. The round trip is shown for the two steps one after the other.
-/

namespace Base64

/-! ### Digits -/

/-- The standard alphabet. -/
def alphabet : List Char :=
  "ABCDEFGHIJKLMNOPQRSTUVWXYZabcdefghijklmnopqrstuvwxyz0123456789+/".toList

/-- The digit of a value below 64. -/
def digit (n : ℕ) : Char := alphabet.getD n 'A'

/-- The value of a digit of the standard or of the URL-safe alphabet. -/
def digitValue (c : Char) : Option ℕ :=
  if c = '-' then some 62
  else if c = '_' then some 63
  else alphabet.idxOf? c

/-- The characters of an encoding. -/
def IsDigit (c : Char) : Prop := c ∈ alphabet ∨ c = '='

lemma digit_mem (n : ℕ) : digit n ∈ alphabet := by
  unfold digit
  rw [List.getD_eq_getElem?_getD]
  cases h : alphabet[n]? with
  | none => exact (by decide +kernel : 'A' ∈ alphabet)
  | some c => exact List.mem_of_getElem? h

lemma getD_mem_zipIdx (cs : List Char) {n : ℕ} (hn : n < cs.length) (c : Char) :
    (cs.getD n c, n) ∈ cs.zipIdx := by
  rw [List.mem_zipIdx_iff_getElem?, List.getD_eq_getElem?_getD, List.getElem?_eq_getElem hn]
  rfl

/-- **A digit has its value** and is no padding. -/
lemma digit_spec {n : ℕ} (hn : n < 64) : digitValue (digit n) = some n ∧ digit n ≠ '=' := by
  have hall : (alphabet.zipIdx.all fun p => digitValue p.1 = some p.2 ∧ p.1 ≠ '=') = true := by
    decide +kernel
  have hlength : alphabet.length = 64 := by decide +kernel
  have hmem : (digit n, n) ∈ alphabet.zipIdx := getD_mem_zipIdx alphabet (hlength ▸ hn) 'A'
  exact of_decide_eq_true (List.all_eq_true.mp hall _ hmem)

/-! ### The codec -/

/-- Three bytes make four digits; one or two bytes at the end are padded. -/
def encode : List UInt8 → List Char
  | [] => []
  | [a] => [digit (a.toNat / 4), digit (a.toNat % 4 * 16), '=', '=']
  | [a, b] =>
    [digit (a.toNat / 4), digit (a.toNat % 4 * 16 + b.toNat / 16), digit (b.toNat % 16 * 4), '=']
  | a :: b :: c :: rest =>
    digit (a.toNat / 4) :: digit (a.toNat % 4 * 16 + b.toNat / 16) ::
      digit (b.toNat % 16 * 4 + c.toNat / 64) :: digit (c.toNat % 64) :: encode rest

/-- The values of the digits up to the padding. What is no digit is skipped. -/
def sextets (cs : List Char) : List ℕ := (cs.takeWhile (· ≠ '=')).filterMap digitValue

/-- Four digits make three bytes; two or three digits at the end make one or two bytes. -/
def ofSextets : List ℕ → List UInt8
  | w :: x :: y :: z :: rest =>
    UInt8.ofNat (w * 4 + x / 16) :: UInt8.ofNat (x * 16 + y / 4) :: UInt8.ofNat (y * 64 + z) ::
      ofSextets rest
  | [w, x, y] => [UInt8.ofNat (w * 4 + x / 16), UInt8.ofNat (x * 16 + y / 4)]
  | [w, x] => [UInt8.ofNat (w * 4 + x / 16)]
  | _ => []

/-- The bytes of a text. -/
def decode (cs : List Char) : List UInt8 := ofSextets (sextets cs)

/-! ### The round trip -/

lemma sextets_digit {n : ℕ} (hn : n < 64) (cs : List Char) :
    sextets (digit n :: cs) = n :: sextets cs := by
  obtain ⟨hvalue, hne⟩ := digit_spec hn
  simp only [sextets, List.takeWhile_cons, hne, ne_eq, not_false_eq_true, decide_true, if_true,
    List.filterMap_cons, hvalue]

lemma sextets_padding (cs : List Char) : sextets ('=' :: cs) = [] := by
  simp [sextets]

lemma ofNat_eq {b : UInt8} {n : ℕ} (h : n % 256 = b.toNat) : UInt8.ofNat n = b := by
  apply UInt8.toNat_inj.mp
  exact h

/-- **What is encoded is decoded**. -/
theorem decode_encode (bytes : List UInt8) : decode (encode bytes) = bytes := by
  unfold decode
  induction bytes using encode.induct with
  | case1 => rfl
  | case2 a =>
    have ha := a.toNat_lt
    rw [encode, sextets_digit (by omega), sextets_digit (by omega), sextets_padding, ofSextets,
      ofNat_eq (b := a) (by omega)]
  | case3 a b =>
    have ha := a.toNat_lt
    have hb := b.toNat_lt
    rw [encode, sextets_digit (by omega), sextets_digit (by omega), sextets_digit (by omega),
      sextets_padding, ofSextets, ofNat_eq (b := a) (by omega), ofNat_eq (b := b) (by omega)]
  | case4 a b c rest ih =>
    have ha := a.toNat_lt
    have hb := b.toNat_lt
    have hc := c.toNat_lt
    rw [encode, sextets_digit (by omega), sextets_digit (by omega), sextets_digit (by omega),
      sextets_digit (by omega), ofSextets, ih, ofNat_eq (b := a) (by omega),
      ofNat_eq (b := b) (by omega), ofNat_eq (b := c) (by omega)]

/-- **The characters of an encoding** are digits and padding. -/
theorem isDigit_encode (bytes : List UInt8) : ∀ c ∈ encode bytes, IsDigit c := by
  have hdigit : ∀ n, IsDigit (digit n) := fun n => Or.inl (digit_mem n)
  have hpad : IsDigit '=' := Or.inr rfl
  induction bytes using encode.induct with
  | case1 => simp [encode]
  | case2 a | case3 a b => simp [encode, hdigit, hpad]
  | case4 a b c rest ih =>
    simp only [encode, List.mem_cons, forall_eq_or_imp, hdigit, true_and]
    exact ih

end Base64
