import Mathlib.Tactic.Ring
import NodeOpcua.Codec

set_option autoImplicit false

/-!
# Dates

A date is encoded as the number of intervals of 100 nanoseconds since 1601, in 64 bits. The
encoder computes this number with wrapping arithmetic and does not clamp it, so a date outside the
range of the format comes back as another one.

## Main definitions

* `Date`, `encodeHighAccuracyDateTime`, `decodeHighAccuracyDateTime`, `Date.ticks`.

## Main results

* `decode_encodeHighAccuracyDateTime`, `dateTime_clamped_iff`.

## Design

* `Long` values are 64-bit vectors; the halves that are written and read are 32-bit vectors.
* A date that is not valid (`NaN`) is no instant and is left out.
-/

namespace NodeOpcua

open BitVec (ofNat ofInt_natCast)

/-- A JavaScript date: milliseconds since 1970, within the range of the language. -/
structure Date where
  getTime : ℤ
  valid : -8640000000000000 ≤ getTime ∧ getTime ≤ 8640000000000000
  deriving DecidableEq, Repr

/-- The milliseconds from 1601 to 1970. -/
def offset : ℕ := 11644473600000

/-- The intervals of 100 nanoseconds in a millisecond. -/
def factor : ℕ := 10000

/-- `getMinOPCUADate`, 1601-01-01. -/
def Date.minimum : Date := ⟨-11644473600000, by decide⟩

/-- 9999-12-31T23:59:59. -/
def Date.maximum : Date := ⟨253402300799000, by decide⟩

/-! ### The codec -/

/-- `bn_dateToHundredNanoSecondFrom1601`: the high and the low half. -/
def bn_dateToHundredNanoSecondFrom1601 (date : Date) (picoseconds : ℕ) : BitVec 32 × BitVec 32 :=
  let excess100nanosecond := picoseconds / 100000
  let a : BitVec 64 := (BitVec.ofInt 64 date.getTime + ofNat 64 offset) *
    ofNat 64 factor + ofNat 64 excess100nanosecond
  (a.extractLsb' 32 32, a.extractLsb' 0 32)

/-- The milliseconds that are decoded, for the number of intervals. -/
def millisecondsOfTicks (l : BitVec 64) : ℤ := (l.toNat / factor : ℕ) - (offset : ℤ)

lemma millisecondsOfTicks_valid (l : BitVec 64) :
    -8640000000000000 ≤ millisecondsOfTicks l ∧ millisecondsOfTicks l ≤ 8640000000000000 := by
  unfold millisecondsOfTicks factor offset
  omega

/-- `bn_hundredNanoSecondFrom1601ToDate`: the date, and the picoseconds it has no room for. -/
def bn_hundredNanoSecondFrom1601ToDate (high low : BitVec 32) (picoseconds : ℕ) : Date × ℕ :=
  let l : BitVec 64 := high ++ low
  (⟨millisecondsOfTicks l, millisecondsOfTicks_valid l⟩,
    l.toNat % 10000 * 100000 + picoseconds)

/-- `writeInteger`, for the bits of the number. -/
def writeInteger (value : BitVec 32) : Buffer := uint32Bytes value.toNat

/-- `readInteger`, as the bits of the number. -/
def readInteger : Reader (BitVec 32) := ofNat 32 <$> BinaryStream.readUInt32

/-- `encodeHighAccuracyDateTime`. -/
def encodeHighAccuracyDateTime (date : Option Date) (picoseconds : ℕ) : Buffer :=
  match date with
  | none => uint32Bytes 0 ++ uint32Bytes (picoseconds % 100000)
  | some date =>
    let (hi, lo) := bn_dateToHundredNanoSecondFrom1601 date picoseconds
    writeInteger lo ++ writeInteger hi

/-- `encodeDateTime`. -/
def encodeDateTime (date : Option Date) : Buffer := encodeHighAccuracyDateTime date 0

/-- `decodeHighAccuracyDateTime`. -/
def decodeHighAccuracyDateTime : Reader (Date × ℕ) := do
  let lo ← readInteger
  let hi ← readInteger
  return bn_hundredNanoSecondFrom1601ToDate hi lo 0

/-- `decodeDateTime`. -/
def decodeDateTime : Reader Date := Prod.fst <$> decodeHighAccuracyDateTime

/-! ### What is decoded -/

/-- The instant of a date with its picoseconds, in intervals of 100 nanoseconds since 1601. -/
def Date.ticks (date : Date) (picoseconds : ℕ) : ℤ :=
  (date.getTime + offset) * factor + (picoseconds / 100000 : ℕ)

/-- The date and the picoseconds that are decoded from a number of intervals. -/
def ofTicks (ticks : ℤ) : ℤ × ℕ :=
  (ticks % 2 ^ 64 / factor - offset, (ticks % 2 ^ 64 % 10000).toNat * 100000)

/-- The two halves of the encoded number are the ticks, modulo `2 ^ 64`. -/
lemma toNat_halves (date : Date) (picoseconds : ℕ) :
    (((bn_dateToHundredNanoSecondFrom1601 date picoseconds).1 ++
      (bn_dateToHundredNanoSecondFrom1601 date picoseconds).2 : BitVec 64).toNat : ℤ) =
      date.ticks picoseconds % 2 ^ 64 := by
  have hjoin : ∀ a : BitVec 64, (a.extractLsb' 32 32 ++ a.extractLsb' 0 32 : BitVec 64) = a := by
    intro a
    exact BitVec.extractLsb'_append_extractLsb'
  simp only [bn_dateToHundredNanoSecondFrom1601]
  rw [hjoin, ← ofInt_natCast, ← ofInt_natCast, ← ofInt_natCast, ← BitVec.ofInt_add,
    ← BitVec.ofInt_mul, ← BitVec.ofInt_add, BitVec.toNat_ofInt, Date.ticks]
  exact Int.toNat_of_nonneg (Int.emod_nonneg _ (by decide))

lemma readInteger_reads (value : BitVec 32) : readInteger.Reads (writeInteger value) value := by
  have h := (BinaryStream.readUInt32_reads value.isLt).map (ofNat 32)
  rwa [BitVec.ofNat_toNat, BitVec.setWidth_eq] at h

section

variable (date : Date) (picoseconds : ℕ)

/-- **What is decoded** from an encoded date: the ticks modulo `2 ^ 64`. -/
theorem decode_encodeHighAccuracyDateTime :
    ∃ decoded : Date × ℕ,
      decodeHighAccuracyDateTime.Reads (encodeHighAccuracyDateTime (some date) picoseconds)
        decoded ∧
      (decoded.1.getTime, decoded.2) = ofTicks (date.ticks picoseconds) := by
  have hhalves := toNat_halves date picoseconds
  have hencode : encodeHighAccuracyDateTime (some date) picoseconds =
      writeInteger (bn_dateToHundredNanoSecondFrom1601 date picoseconds).2 ++
        writeInteger (bn_dateToHundredNanoSecondFrom1601 date picoseconds).1 := rfl
  rw [hencode]
  generalize bn_dateToHundredNanoSecondFrom1601 date picoseconds = halves at hhalves ⊢
  obtain ⟨hi, lo⟩ := halves
  refine ⟨bn_hundredNanoSecondFrom1601ToDate hi lo 0, ?_, ?_⟩
  · refine (readInteger_reads lo).bind ?_
    exact (readInteger_reads hi).bind (Reader.Reads.pure _)
  · simp only [bn_hundredNanoSecondFrom1601ToDate, millisecondsOfTicks, ofTicks, ← hhalves,
      Nat.add_zero]
    congr 2

/-! ### The clamped date -/

/-- **The date is decoded as the clamped one**: the same instant within the range of the format,
the minimum date for an earlier one and the maximum date for a later one. -/
def Date.Clamped : Prop :=
  ∃ decoded : Date × ℕ,
    decodeHighAccuracyDateTime.Reads (encodeHighAccuracyDateTime (some date) picoseconds) decoded ∧
      if date.getTime < Date.minimum.getTime then decoded.1 = Date.minimum
      else if Date.maximum.getTime < date.getTime then decoded.1 = Date.maximum
      else decoded = (date, picoseconds / 100000 * 100000)

/-- The date lies in the range of the format; or it lies outside, and a multiple of `2 ^ 64`
intervals away from the first or the last millisecond of the range. -/
def Date.Representable : Prop :=
  if date.getTime < Date.minimum.getTime then
    ∃ turns : ℕ, 0 ≤ date.ticks picoseconds + turns * 2 ^ 64 ∧
      date.ticks picoseconds + turns * 2 ^ 64 < factor
  else if Date.maximum.getTime < date.getTime then
    ∃ turns : ℕ, Date.maximum.ticks 0 ≤ date.ticks picoseconds - turns * 2 ^ 64 ∧
      date.ticks picoseconds - turns * 2 ^ 64 < Date.maximum.ticks 0 + factor
  else True

end

@[ext] lemma Date.ext {a b : Date} (h : a.getTime = b.getTime) : a = b := by
  cases a
  cases b
  simpa using h

lemma ofTicks_of_mem {date : Date} (hmin : Date.minimum.getTime ≤ date.getTime)
    (hmax : date.getTime ≤ Date.maximum.getTime) {picoseconds : ℕ} (hp : picoseconds < 10 ^ 9) :
    ofTicks (date.ticks picoseconds) = (date.getTime, picoseconds / 100000 * 100000) := by
  unfold ofTicks Date.ticks offset factor
  simp only [Date.minimum, Date.maximum] at hmin hmax
  have hticks : (date.getTime + (11644473600000 : ℕ)) * (10000 : ℕ) +
      (picoseconds / 100000 : ℕ) < 2 ^ 64 := by omega
  rw [Int.emod_eq_of_lt (by omega) hticks]
  refine Prod.ext ?_ ?_
  · dsimp only
    omega
  · dsimp only
    congr 1
    omega

/-- A number of ticks is decoded to the first millisecond of the range when it lies a multiple of
`2 ^ 64` below it. -/
lemma ofTicks_eq_minimum_iff {ticks : ℤ} (hneg : ticks < 0) :
    (ofTicks ticks).1 = Date.minimum.getTime ↔
      ∃ turns : ℕ, 0 ≤ ticks + turns * 2 ^ 64 ∧ ticks + turns * 2 ^ 64 < factor := by
  unfold ofTicks offset factor
  simp only [Date.minimum]
  constructor
  · intro h
    refine ⟨(-(ticks / 2 ^ 64)).toNat, ?_⟩
    omega
  · rintro ⟨turns, hlow, hhigh⟩
    omega

/-- A number of ticks is decoded to the last millisecond of the range when it lies a multiple of
`2 ^ 64` above it. -/
lemma ofTicks_eq_maximum_iff {ticks : ℤ} (hpos : Date.maximum.ticks 0 ≤ ticks) :
    (ofTicks ticks).1 = Date.maximum.getTime ↔
      ∃ turns : ℕ, Date.maximum.ticks 0 ≤ ticks - turns * 2 ^ 64 ∧
        ticks - turns * 2 ^ 64 < Date.maximum.ticks 0 + factor := by
  have hmax : Date.maximum.ticks 0 = 2650467743990000000 := by decide
  rw [hmax] at hpos ⊢
  unfold ofTicks offset factor
  simp only [Date.maximum]
  constructor
  · intro h
    refine ⟨(ticks / 2 ^ 64).toNat, ?_⟩
    omega
  · rintro ⟨turns, hlow, hhigh⟩
    omega

/-- **When a date is decoded as the clamped one**, for every date and every number of picoseconds
within its millisecond.

**Proof sketch.** What is decoded are the ticks modulo `2 ^ 64`. Within the range they are the
ticks themselves; outside, the remainder is on the bound exactly when some multiple of `2 ^ 64`
leads there. -/
theorem dateTime_clamped_iff (date : Date) (picoseconds : Fin (10 ^ 9)) :
    date.Clamped picoseconds ↔ date.Representable picoseconds := by
  obtain ⟨decoded, hreads, hdecoded⟩ := decode_encodeHighAccuracyDateTime date picoseconds
  have hiff : date.Clamped picoseconds ↔
      if date.getTime < Date.minimum.getTime then decoded.1 = Date.minimum
      else if Date.maximum.getTime < date.getTime then decoded.1 = Date.maximum
      else decoded = (date, (picoseconds : ℕ) / 100000 * 100000) := by
    constructor
    · rintro ⟨decoded', hreads', h⟩
      rw [hreads.unique hreads']
      exact h
    · exact fun h => ⟨decoded, hreads, h⟩
  have hfirst : decoded.1.getTime = (ofTicks (date.ticks picoseconds)).1 :=
    congrArg Prod.fst hdecoded
  rw [hiff, Date.Representable]
  by_cases hlow : date.getTime < Date.minimum.getTime
  · rw [if_pos hlow, if_pos hlow, Date.ext_iff, hfirst]
    apply ofTicks_eq_minimum_iff
    unfold Date.ticks offset factor
    simp only [Date.minimum] at hlow
    omega
  rw [if_neg hlow, if_neg hlow]
  by_cases hhigh : Date.maximum.getTime < date.getTime
  · rw [if_pos hhigh, if_pos hhigh, Date.ext_iff, hfirst]
    apply ofTicks_eq_maximum_iff
    unfold Date.ticks offset factor
    omega
  · rw [if_neg hhigh, if_neg hhigh, iff_true]
    rw [ofTicks_of_mem (by omega) (by omega) picoseconds.isLt] at hdecoded
    obtain ⟨htime, hpico⟩ := Prod.mk.inj hdecoded
    exact Prod.ext (Date.ext htime) hpico

/-- **One millisecond before 1601** is decoded as a date of the year 60056. -/
theorem dateTime_wraps :
    ¬ Date.Clamped ⟨-11644473600001, by decide⟩ 0 ∧
      decodeDateTime.Reads (encodeDateTime (some ⟨-11644473600001, by decide⟩))
        ⟨1833029933770954, by decide⟩ := by
  obtain ⟨decoded, hreads, hdecoded⟩ :=
    decode_encodeHighAccuracyDateTime ⟨-11644473600001, by decide⟩ 0
  have htime : decoded.1.getTime = 1833029933770954 := by
    rw [show decoded.1.getTime = _ from congrArg Prod.fst hdecoded]
    decide
  constructor
  · rintro ⟨decoded', hreads', h⟩
    rw [if_pos (by decide), ← hreads.unique hreads', Date.ext_iff, htime] at h
    exact absurd h (by decide)
  · have hdate : decoded.1 = ⟨1833029933770954, by decide⟩ := Date.ext htime
    rw [← hdate]
    exact hreads.map Prod.fst

end NodeOpcua
