import NodeOpcua.DateTime
import NodeOpcua.Library.CaseMapping
import NodeOpcua.Library.Hexadecimal

set_option autoImplicit false

/-!
# GUIDs

A GUID is kept as its text in upper case. The test for a valid one looks at the first 36 characters
only, and so does the encoder: what follows them is lost.

## Main definitions

* `Guid`.
* `encodeGuid`, `decodeGuid`.

## Main results

* `Guid.decodeGuid_recovers`.
* `Guid.head_eq_self_iff`.
-/

namespace NodeOpcua

open Hexadecimal
open BinaryStream (uint16Bytes)
open Char (ofNat)

/-! ### The text of a GUID -/

/-- A hexadecimal digit, in either case. -/
def isHexDigit (c : Char) : Bool :=
  c.isDigit || ('A' ≤ c && c ≤ 'F') || ('a' ≤ c && c ≤ 'f')

/-- The text starts with one character of each class, in order. -/
def startsWithClasses : List (Char → Bool) → List Char → Bool
  | [], _ => true
  | p :: ps, c :: cs => p c && startsWithClasses ps cs
  | _ :: _, [] => false

/-- The character classes of `regexGUID`; the expression is not anchored at its end. -/
def regexGUID : List (Char → Bool) :=
  List.replicate 8 isHexDigit ++ [(· == '-')] ++ List.replicate 4 isHexDigit ++ [(· == '-')] ++
    List.replicate 4 isHexDigit ++ [(· == '-')] ++ List.replicate 4 isHexDigit ++ [(· == '-')] ++
    List.replicate 12 isHexDigit

/-- `isValidGuid`. -/
def isValidGuid (guid : List Char) : Bool := startsWithClasses regexGUID guid

/-- `emptyGuid`. -/
def emptyGuid : List Char := "00000000-0000-0000-0000-000000000000".toList

section

variable (U : CaseMapping)

/-- `normalizeGuid`. The empty string is taken like a missing one. -/
def normalizeGuid (guid : List Char) : List Char :=
  if guid = [] then emptyGuid else U.toUpperCase guid

/-- **A GUID** as a node identifier holds it: valid, and in upper case. -/
structure Guid where
  text : List Char
  valid : isValidGuid text = true
  normal : U.toUpperCase text = text
  deriving DecidableEq

end

/-! ### The codec -/

/-- `hexCharToNum`, for the code of a hexadecimal digit. -/
def hexCharToNum (c : Char) : ℕ :=
  let l := c.toNat &&& 0x5f
  if l ≤ 25 then l - 16 else l - 55

/-- The number that `nb` digits from `start` on write. -/
def hexAt (guid : List Char) (start nb : ℕ) : ℕ :=
  ofHex (((guid.drop start).take nb).map hexCharToNum)

section

variable (guid : List Char) (starts : List ℕ)

/-- `write_UInt32`. -/
def write_UInt32 : Buffer :=
  starts.flatMap fun start => writeInteger (BitVec.ofNat 32 (hexAt guid start 8))

/-- `write_UInt16`. -/
def write_UInt16 : Buffer :=
  starts.flatMap fun start => uint16Bytes (hexAt guid start 4)

/-- `write_UInt8`. -/
def write_UInt8 : Buffer :=
  starts.flatMap fun start => [UInt8.ofNat (hexAt guid start 2)]

end

/-- `encodeGuid`. -/
def encodeGuid (guid : List Char) : Except EncodeError Buffer :=
  if isValidGuid guid = false then .error (.invalidGuid guid)
  else .ok (write_UInt32 guid [0] ++ write_UInt16 guid [9, 14] ++
    write_UInt8 guid [19, 21, 24, 26, 28, 30, 32, 34])

/-- `read_UInt32`. -/
def read_UInt32 : Reader (List Char) := (toHex · 8) <$> BinaryStream.readUInt32

/-- `read_UInt16`. -/
def read_UInt16 : Reader (List Char) := (toHex · 4) <$> BinaryStream.readUInt16

/-- `read_UInt8`. -/
def read_UInt8 : Reader (List Char) := (toHex · 2) <$> BinaryStream.readUInt8

/-- `read_many`. -/
def read_many (func : Reader (List Char)) : ℕ → Reader (List Char)
  | 0 => return []
  | nb + 1 => do
    let first ← func
    let rest ← read_many func nb
    return first ++ rest

variable {ps : List (Char → Bool)} {cs : List Char}

/-- `decodeGuid`. -/
def decodeGuid (U : CaseMapping) : Reader (List Char) := do
  let data1 ← read_UInt32
  let data2 ← read_UInt16
  let data3 ← read_UInt16
  let data45 ← read_many read_UInt8 2
  let data6B ← read_many read_UInt8 6
  return U.toUpperCase
    (data1 ++ '-' :: (data2 ++ '-' :: (data3 ++ '-' :: (data45 ++ '-' :: data6B))))

/-! ### Character classes -/

lemma startsWithClasses_drop (k : ℕ)
    (h : startsWithClasses ps cs = true) : startsWithClasses (ps.drop k) (cs.drop k) = true := by
  induction k generalizing ps cs with
  | zero => exact h
  | succ k ih =>
    cases ps with
    | nil => rfl
    | cons p ps =>
      cases cs with
      | nil => cases h
      | cons c cs =>
        rw [startsWithClasses, Bool.and_eq_true] at h
        exact ih h.2

variable {n : ℕ}

lemma startsWithClasses_replicate {p : Char → Bool}
    (hp : ps.take n = List.replicate n p) (h : startsWithClasses ps cs = true) :
    (cs.take n).length = n ∧ ∀ c ∈ cs.take n, p c = true := by
  induction n generalizing ps cs with
  | zero => simp
  | succ n ih =>
    cases ps with
    | nil => simp [List.replicate_succ] at hp
    | cons q ps =>
      rw [List.take_succ_cons, List.replicate_succ, List.cons.injEq] at hp
      obtain ⟨rfl, hps⟩ := hp
      cases cs with
      | nil => cases h
      | cons c cs =>
        rw [startsWithClasses, Bool.and_eq_true] at h
        obtain ⟨hlen, hall⟩ := ih hps h.2
        rw [List.take_succ_cons, List.length_cons, hlen]
        refine ⟨rfl, ?_⟩
        rw [List.forall_mem_cons]
        exact ⟨h.1, hall⟩

lemma startsWithClasses_take {P : Char → Prop}
    (hP : ∀ p ∈ ps, ∀ c, p c = true → P c) (h : startsWithClasses ps cs = true) :
    (cs.take ps.length).length = ps.length ∧ ∀ c ∈ cs.take ps.length, P c := by
  induction ps generalizing cs with
  | nil => simp
  | cons p ps ih =>
    cases cs with
    | nil => cases h
    | cons c cs =>
      rw [startsWithClasses, Bool.and_eq_true] at h
      obtain ⟨hlen, hall⟩ := ih (fun q hq => hP q (by simp [hq])) h.2
      rw [List.length_cons, List.take_succ_cons, List.length_cons, hlen]
      refine ⟨rfl, ?_⟩
      rw [List.forall_mem_cons]
      exact ⟨hP p (by simp) c h.1, hall⟩

lemma startsWithClasses_self
    (h : startsWithClasses ps cs = true) : startsWithClasses ps (cs.take ps.length) = true := by
  induction ps generalizing cs with
  | nil => rfl
  | cons p ps ih =>
    cases cs with
    | nil => cases h
    | cons c cs =>
      rw [startsWithClasses, Bool.and_eq_true] at h
      rw [List.length_cons, List.take_succ_cons, startsWithClasses, h.1, ih h.2]
      rfl

/-! ### Digits -/

lemma isHexDigit_ascii {c : Char} (h : isHexDigit c = true) : c.toNat < 0x80 := by
  simp only [isHexDigit, Char.isDigit, Bool.or_eq_true, Bool.and_eq_true, decide_eq_true_eq] at h
  rcases h with (⟨-, h⟩ | ⟨-, h⟩) | ⟨-, h⟩
  · exact Nat.lt_of_le_of_lt (UInt32.le_iff_toNat_le.mp h) (by decide)
  · exact Nat.lt_of_le_of_lt (UInt32.le_iff_toNat_le.mp h) (by decide)
  · exact Nat.lt_of_le_of_lt (UInt32.le_iff_toNat_le.mp h) (by decide)

/-- **A digit** has a value below 16, and in upper case it is the digit of its value. -/
lemma hexDigit_spec {c : Char} (h : isHexDigit c = true) :
    hexCharToNum c < 16 ∧ (hexCharToNum c).digitChar.toNat < 0x80 ∧
      (hexCharToNum c).digitChar.toUpper = c.toUpper := by
  have hall : ∀ n : Fin 0x80, isHexDigit (ofNat n) = true →
      hexCharToNum (ofNat n) < 16 ∧ (hexCharToNum (ofNat n)).digitChar.toNat < 0x80 ∧
        (hexCharToNum (ofNat n)).digitChar.toUpper = (ofNat n).toUpper := by
    decide +kernel
  have hc := hall ⟨c.toNat, isHexDigit_ascii h⟩
  simp only [Char.ofNat_toNat] at hc
  exact hc h

lemma regexGUID_toUpper {p : Char → Bool} (hp : p ∈ regexGUID) {c : Char} (hc : p c = true) :
    c.toNat < 0x80 ∧ p c.toUpper = true := by
  have hp' : p = isHexDigit ∨ p = (· == '-') := by
    simpa [regexGUID, or_comm, or_assoc, or_left_comm] using hp
  rcases hp' with rfl | rfl
  · have hall : ∀ n : Fin 0x80, isHexDigit (ofNat n) = true →
        isHexDigit (ofNat n).toUpper = true := by
      decide +kernel
    have hupper := hall ⟨c.toNat, isHexDigit_ascii hc⟩
    simp only [Char.ofNat_toNat] at hupper
    exact ⟨isHexDigit_ascii hc, hupper hc⟩
  · rw [eq_of_beq hc]
    decide

lemma isValidGuid_toUpperCase (U : CaseMapping) {guid : List Char} (h : isValidGuid guid = true) :
    isValidGuid (U.toUpperCase guid) = true := by
  have hclasses : ∀ (ps : List (Char → Bool)) (cs : List Char), ps ⊆ regexGUID →
      startsWithClasses ps cs = true → startsWithClasses ps (U.toUpperCase cs) = true := by
    intro ps
    induction ps with
    | nil => exact fun _ _ _ => rfl
    | cons p ps ih =>
      intro cs hsub hcs
      cases cs with
      | nil => cases hcs
      | cons c cs =>
        rw [List.cons_subset] at hsub
        rw [startsWithClasses, Bool.and_eq_true] at hcs
        obtain ⟨hascii, hupper⟩ := regexGUID_toUpper hsub.1 hcs.1
        have hrest := ih cs hsub.2 hcs.2
        simp only [CaseMapping.toUpperCase, List.flatMap_cons, U.upper_ascii c hascii,
          List.cons_append, List.nil_append, startsWithClasses, hupper, Bool.true_and] at hrest ⊢
        exact hrest
  exact hclasses regexGUID guid (fun _ hp => hp) h

/-! ### Reading -/

lemma read_UInt32_reads (hn : n < 16 ^ 8) :
    read_UInt32.Reads (writeInteger (BitVec.ofNat 32 n)) (toHex n 8) := by
  have hread := (BinaryStream.readUInt32_reads (n := n) (by omega)).map (toHex · 8)
  have hbytes : writeInteger (BitVec.ofNat 32 n) = uint32Bytes n := by
    rw [writeInteger, BitVec.toNat_ofNat, Nat.mod_eq_of_lt (by omega)]
  rwa [hbytes]

lemma read_UInt16_reads (hn : n < 16 ^ 4) :
    read_UInt16.Reads (uint16Bytes n) (toHex n 4) :=
  (BinaryStream.readUInt16_reads (n := n) (by omega)).map (toHex · 4)

lemma read_UInt8_reads (hn : n < 16 ^ 2) :
    read_UInt8.Reads [UInt8.ofNat n] (toHex n 2) := by
  have hread := (BinaryStream.readUInt8_reads (UInt8.ofNat n)).map (toHex · 2)
  have hvalue : (UInt8.ofNat n).toNat = n := by
    rw [UInt8.toNat_ofNat']
    omega
  rwa [hvalue] at hread

lemma read_many_reads (guid : List Char) (starts : List ℕ)
    (h : ∀ start ∈ starts, hexAt guid start 2 < 16 ^ 2) :
    (read_many read_UInt8 starts.length).Reads (write_UInt8 guid starts)
      (starts.flatMap fun start => toHex (hexAt guid start 2) 2) := by
  induction starts with
  | nil => exact Reader.Reads.pure []
  | cons start starts ih =>
    have hfirst := read_UInt8_reads (h start (by simp))
    have hrest := ih fun s hs => h s (by simp [hs])
    exact hfirst.bind (hrest.map (toHex (hexAt guid start 2) 2 ++ ·))

namespace Guid

variable {U : CaseMapping} (g : Guid U)

lemma text_inj {v1 v2 : Guid U} : v1.text = v2.text ↔ v1 = v2 := by
  constructor
  · intro h
    cases v1
    cases v2
    cases h
    rfl
  · exact congrArg Guid.text

/-- **The first 36 characters** are ASCII. -/
lemma ascii_take : ∀ c ∈ g.text.take 36, c.toNat < 0x80 := by
  have hclasses : ∀ p ∈ regexGUID, ∀ c, p c = true → c.toNat < 0x80 := fun p hp c hc =>
    (regexGUID_toUpper hp hc).1
  exact (startsWithClasses_take hclasses g.valid).2

lemma length_take : (g.text.take 36).length = 36 :=
  (startsWithClasses_take (P := fun _ => True) (fun _ _ _ _ => trivial) g.valid).1

lemma toUpper_of_mem_take {c : Char} (h : c ∈ g.text.take 36) : c.toUpper = c := by
  have hnormal := g.normal
  rw [← List.take_append_drop 36 g.text] at hnormal
  have hmap := (U.map_toUpper_of_append g.ascii_take hnormal).1
  exact List.map_inj_left.mp (hmap.trans (List.map_id _).symm) c h

lemma text_ne_nil : g.text ≠ [] := by
  intro h
  have hvalid := g.valid
  rw [h] at hvalid
  cases hvalid

lemma not_mem_text : 'n' ∉ g.text := by
  intro hmem
  rw [← g.normal] at hmem
  obtain ⟨c, -, hc⟩ := List.mem_flatMap.mp hmem
  have hfix := U.upper_upper c 'n' hc
  rw [U.upper_ascii 'n' (by decide)] at hfix
  exact absurd hfix (by decide)

/-- **What is kept of a GUID**: its first 36 characters. -/
def head : Guid U where
  text := g.text.take 36
  valid := startsWithClasses_self (show startsWithClasses regexGUID g.text = true from g.valid)
  normal := by
    have hnormal := g.normal
    rw [← List.take_append_drop 36 g.text] at hnormal
    rw [U.toUpperCase_of_ascii g.ascii_take]
    exact (U.map_toUpper_of_append g.ascii_take hnormal).1

lemma head_text : g.head.text = g.text.take 36 := rfl

lemma head_eq_self_iff : g.head = g ↔ g.text.length = 36 := by
  constructor
  · intro h
    rw [← h]
    exact g.length_take
  · intro h
    have htext : g.head.text = g.text := List.take_of_length_le (Nat.le_of_eq h)
    exact Guid.text_inj.mp htext

lemma mem_take_of_mem_piece {start nb : ℕ} (hle : start + nb ≤ 36) {c : Char}
    (h : c ∈ (g.text.drop start).take nb) : c ∈ g.text.take 36 := by
  have hpiece : (g.text.drop start).take nb <:+ g.text.take (start + nb) := by
    rw [List.take_add]
    exact List.suffix_append _ _
  exact (List.take_subset_take_left _ hle) (hpiece.subset h)

lemma dash_piece (start : ℕ) (h : (regexGUID.drop start).take 1 = [(· == '-')]) :
    (g.text.drop start).take 1 = ['-'] := by
  obtain ⟨hlen, hall⟩ := startsWithClasses_replicate (n := 1) h (startsWithClasses_drop start g.valid)
  obtain ⟨c, hc⟩ := List.length_eq_one_iff.mp hlen
  rw [hc] at hall ⊢
  rw [eq_of_beq (hall c (by simp))]

/-- **A group of digits**: the number that is encoded writes the digits again. -/
lemma digits_piece (start nb : ℕ) (hnb : 0 < nb) (hle : start + nb ≤ 36)
    (h : (regexGUID.drop start).take nb = List.replicate nb isHexDigit) :
    hexAt g.text start nb < 16 ^ nb ∧
      U.toUpperCase (toHex (hexAt g.text start nb) nb) = (g.text.drop start).take nb := by
  obtain ⟨hlen, hall⟩ := startsWithClasses_replicate h (startsWithClasses_drop start g.valid)
  have hupper : ∀ c ∈ (g.text.drop start).take nb, c.toUpper = c := fun c hc =>
    g.toUpper_of_mem_take (g.mem_take_of_mem_piece hle hc)
  unfold hexAt
  generalize (g.text.drop start).take nb = ds at hlen hall hupper
  have hlt : ∀ d ∈ ds.map hexCharToNum, d < 16 := by
    intro d hd
    obtain ⟨c, hc, rfl⟩ := List.mem_map.mp hd
    exact (hexDigit_spec (hall c hc)).1
  have hne : ds.map hexCharToNum ≠ [] := by
    intro hnil
    rw [List.map_eq_nil_iff.mp hnil] at hlen
    exact absurd hlen (by simp; omega)
  have hlength : (ds.map hexCharToNum).length = nb := by rw [List.length_map, hlen]
  constructor
  · have := ofHex_lt hlt
    rwa [hlength] at this
  · have hdigits := toHex_ofHex hlt hne
    rw [hlength] at hdigits
    rw [hdigits, U.toUpperCase_of_ascii, List.map_map, List.map_map]
    · calc ds.map (Char.toUpper ∘ Nat.digitChar ∘ hexCharToNum) = ds.map id := by
            apply List.map_congr_left
            intro c hc
            exact (hexDigit_spec (hall c hc)).2.2.trans (hupper c hc)
        _ = ds := List.map_id ds
    · intro c hc
      obtain ⟨d, hd, rfl⟩ := List.mem_map.mp hc
      obtain ⟨e, he, rfl⟩ := List.mem_map.mp hd
      exact (hexDigit_spec (hall e he)).2.1

lemma pair_piece {start : ℕ} (h : start ∈ [19, 21, 24, 26, 28, 30, 32, 34]) :
    hexAt g.text start 2 < 16 ^ 2 ∧
      U.toUpperCase (toHex (hexAt g.text start 2) 2) = (g.text.drop start).take 2 := by
  have hclasses : ∀ start ∈ [19, 21, 24, 26, 28, 30, 32, 34], start + 2 ≤ 36 ∧
      (regexGUID.drop start).take 2 = List.replicate 2 isHexDigit := by
    simp only [List.forall_mem_cons, List.not_mem_nil, false_implies, implies_true, and_true]
    exact ⟨⟨by decide, rfl⟩, ⟨by decide, rfl⟩, ⟨by decide, rfl⟩, ⟨by decide, rfl⟩,
      ⟨by decide, rfl⟩, ⟨by decide, rfl⟩, ⟨by decide, rfl⟩, ⟨by decide, rfl⟩⟩
  exact g.digits_piece start 2 (by decide) (hclasses start h).1 (hclasses start h).2

lemma take_eq_pieces :
    g.text.take 36 = (g.text.drop 0).take 8 ++ '-' :: ((g.text.drop 9).take 4 ++ '-' ::
      ((g.text.drop 14).take 4 ++ '-' :: (([19, 21].flatMap fun start =>
        (g.text.drop start).take 2) ++ '-' :: [24, 26, 28, 30, 32, 34].flatMap fun start =>
          (g.text.drop start).take 2))) := by
  have hdash8 := g.dash_piece 8 rfl
  have hdash13 := g.dash_piece 13 rfl
  have hdash18 := g.dash_piece 18 rfl
  have hdash23 := g.dash_piece 23 rfl
  have htake : (36 : ℕ) = 8 + (1 + (4 + (1 + (4 + (1 + (2 + (2 + (1 + (2 + (2 + (2 + (2 +
    (2 + 2))))))))))))) := rfl
  rw [htake]
  simp only [List.take_add, -Nat.reduceAdd]
  simp only [List.drop_drop, Nat.reduceAdd, hdash8, hdash13, hdash18, hdash23,
    List.drop_zero, List.flatMap_cons, List.flatMap_nil, List.append_nil, List.append_assoc,
    List.singleton_append]

/-- **The first 36 characters are read back**. -/
theorem decodeGuid_recovers :
    (decodeGuid U).Recovers (encodeGuid g.text) (g.text.take 36) := by
  refine ⟨_, if_neg (by rw [g.valid]; decide), ?_⟩
  obtain ⟨hlt1, heq1⟩ := g.digits_piece 0 8 (by decide) (by decide) rfl
  obtain ⟨hlt2, heq2⟩ := g.digits_piece 9 4 (by decide) (by decide) rfl
  obtain ⟨hlt3, heq3⟩ := g.digits_piece 14 4 (by decide) (by decide) rfl
  have h45 := read_many_reads g.text [19, 21] fun start hmem =>
    (g.pair_piece (by revert hmem; simp; omega)).1
  have h6B := read_many_reads g.text [24, 26, 28, 30, 32, 34]
    fun start hmem => (g.pair_piece (by revert hmem; simp; omega)).1
  have hpairs : ∀ starts ⊆ [19, 21, 24, 26, 28, 30, 32, 34],
      U.toUpperCase (starts.flatMap fun start => toHex (hexAt g.text start 2) 2) =
        starts.flatMap fun start => (g.text.drop start).take 2 := by
    intro starts hsub
    induction starts with
    | nil => rfl
    | cons start starts ih =>
      rw [List.cons_subset] at hsub
      rw [List.flatMap_cons, U.toUpperCase_append, (g.pair_piece hsub.1).2, ih hsub.2,
        List.flatMap_cons]
  have hdash : ∀ cs, U.toUpperCase ('-' :: cs) = '-' :: U.toUpperCase cs := by
    intro cs
    rw [← List.singleton_append, U.toUpperCase_append, U.toUpperCase_of_ascii (by simp)]
    rfl
  have htext : U.toUpperCase (toHex (hexAt g.text 0 8) 8 ++ '-' ::
      (toHex (hexAt g.text 9 4) 4 ++ '-' :: (toHex (hexAt g.text 14 4) 4 ++ '-' ::
        (([19, 21].flatMap fun start => toHex (hexAt g.text start 2) 2) ++ '-' ::
          [24, 26, 28, 30, 32, 34].flatMap fun start => toHex (hexAt g.text start 2) 2)))) =
      g.text.take 36 := by
    rw [g.take_eq_pieces]
    simp only [U.toUpperCase_append, hdash, heq1, heq2, heq3]
    rw [hpairs _ (by decide), hpairs _ (by decide)]
  rw [← htext]
  exact (read_UInt32_reads hlt1).bind ((read_UInt16_reads hlt2).bind
    ((read_UInt16_reads hlt3).bind (h45.bind (h6B.bind (Reader.Reads.pure _)))))

end Guid

end NodeOpcua
