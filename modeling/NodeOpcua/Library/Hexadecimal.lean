import Mathlib.Data.List.Induction
import Mathlib.Tactic.IntervalCases

set_option autoImplicit false

/-!
# Hexadecimal digits

Numbers written with a fixed number of hexadecimal digits, and byte sequences written with two
digits a byte.

## Main definitions

* `Hexadecimal.toHex`, `Hexadecimal.ofHex`, `Hexadecimal.hexString`.
-/

namespace Hexadecimal

/-- A number in base 16, padded with zeros on the left to `nb` digits. -/
def toHex (n nb : ℕ) : List Char :=
  List.replicate (nb - (Nat.toDigits 16 n).length) '0' ++ Nat.toDigits 16 n

/-- The number that digits of the given values write. -/
def ofHex (digits : List ℕ) : ℕ := digits.foldl (fun v d => v <<< 4 ||| d) 0

/-- The lower-case digits of a byte sequence, two a byte. -/
def hexString (bytes : List UInt8) : List Char := bytes.flatMap fun b => toHex b.toNat 2

lemma toHex_succ {n nb : ℕ} (h : n < 16 ^ (nb + 1)) (hnb : 0 < nb) :
    toHex n (nb + 1) = toHex (n / 16) nb ++ [(n % 16).digitChar] := by
  unfold toHex
  by_cases hn : n < 16
  · rw [Nat.toDigits_of_lt_base hn, Nat.div_eq_of_lt hn, Nat.mod_eq_of_lt hn, Nat.toDigits_zero]
    simp only [List.length_singleton, Nat.add_sub_cancel, List.append_assoc]
    obtain ⟨k, rfl⟩ : ∃ k, nb = k + 1 := ⟨nb - 1, by omega⟩
    rw [List.replicate_succ', Nat.add_sub_cancel, List.append_assoc]
  · have hdiv : 0 < n / 16 := by omega
    have hdigits := Nat.toDigits_append_toDigits (b := 16) (by decide) hdiv
      (Nat.mod_lt n (by decide : 0 < 16))
    rw [Nat.div_add_mod, Nat.toDigits_of_lt_base (Nat.mod_lt n (by decide))] at hdigits
    rw [← hdigits, List.length_append, List.length_singleton, Nat.add_sub_add_right,
      List.append_assoc]

/-- **A digit at a time**: appending a digit to a number shifts it. -/
lemma ofHex_append (digits : List ℕ) {d : ℕ} (hd : d < 16) :
    ofHex (digits ++ [d]) = ofHex digits * 16 + d := by
  unfold ofHex
  rw [List.foldl_append, List.foldl_cons, List.foldl_nil,
    ← Nat.shiftLeft_add_eq_or_of_lt (i := 4) hd, Nat.shiftLeft_eq]

lemma ofHex_lt {digits : List ℕ} (h : ∀ d ∈ digits, d < 16) :
    ofHex digits < 16 ^ digits.length := by
  induction digits using List.reverseRecOn with
  | nil => simp [ofHex]
  | append_singleton digits d ih =>
    have hd : d < 16 := h d (by simp)
    have hlt := ih fun e he => h e (by simp [he])
    rw [ofHex_append digits hd, List.length_append, List.length_singleton, Nat.pow_succ]
    omega

/-- **The digits of the number that is written** are the digits it is written with. -/
theorem toHex_ofHex {digits : List ℕ} (h : ∀ d ∈ digits, d < 16) (hne : digits ≠ []) :
    toHex (ofHex digits) digits.length = digits.map Nat.digitChar := by
  induction digits using List.reverseRecOn with
  | nil => exact absurd rfl hne
  | append_singleton digits d ih =>
    have hd : d < 16 := h d (by simp)
    have hdigits : ∀ e ∈ digits, e < 16 := fun e he => h e (by simp [he])
    rcases digits.eq_nil_or_concat with rfl | hconcat
    · have hone : ofHex ([] ++ [d]) = d := by
        simp [ofHex]
      rw [hone, toHex, Nat.toDigits_of_lt_base hd]
      rfl
    · have hpos : 0 < digits.length := by
        obtain ⟨l, e, rfl⟩ := hconcat
        simp
      have hlt : ofHex (digits ++ [d]) < 16 ^ (digits.length + 1) := by
        simpa using ofHex_lt h
      have hdiv : ofHex (digits ++ [d]) / 16 = ofHex digits := by
        rw [ofHex_append digits hd]
        omega
      have hmod : ofHex (digits ++ [d]) % 16 = d := by
        rw [ofHex_append digits hd]
        omega
      rw [List.length_append, List.length_singleton, toHex_succ hlt hpos, hdiv, hmod,
        ih hdigits (List.length_pos_iff.mp hpos), List.map_append, List.map_singleton]

/-! ### Byte sequences -/

/-- The value of a lower-case digit. -/
def digitValue (c : Char) : ℕ := if c.isDigit then c.toNat - 48 else c.toNat - 87

lemma digitValue_digitChar {d : ℕ} (hd : d < 16) : digitValue d.digitChar = d := by
  interval_cases d <;> rfl

lemma toHex_byte {n : ℕ} (hn : n < 256) :
    toHex n 2 = [(n / 16).digitChar, (n % 16).digitChar] := by
  rw [toHex_succ (by simpa using hn) (by decide), toHex, Nat.toDigits_of_lt_base (by omega)]
  rfl

/-- **A byte sequence is determined by its digits**. -/
theorem hexString_injective : Function.Injective hexString := by
  intro as
  induction as with
  | nil =>
    intro bs h
    cases bs with
    | nil => rfl
    | cons b bs =>
      have hlen := congrArg List.length h
      simp [hexString, toHex_byte b.toNat_lt] at hlen
  | cons a as ih =>
    intro bs h
    cases bs with
    | nil =>
      have hlen := congrArg List.length h
      simp [hexString, toHex_byte a.toNat_lt] at hlen
    | cons b bs =>
      have ha := a.toNat_lt
      have hb := b.toNat_lt
      simp only [hexString, List.flatMap_cons, toHex_byte ha, toHex_byte hb, List.cons_append,
        List.nil_append, List.cons.injEq] at h
      obtain ⟨hhigh, hlow, hrest⟩ := h
      have hhigh' := congrArg digitValue hhigh
      have hlow' := congrArg digitValue hlow
      rw [digitValue_digitChar (by omega), digitValue_digitChar (by omega)] at hhigh' hlow'
      have hbyte : a.toNat = b.toNat := by omega
      rw [ih hrest, UInt8.toNat_inj.mp hbyte]

end Hexadecimal
