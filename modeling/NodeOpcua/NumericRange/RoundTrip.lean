import NodeOpcua.Library.NumberPrinting
import NodeOpcua.NumericRange.Grammar
import NodeOpcua.Utf8

set_option autoImplicit false

/-!
# The round trip of a numeric range

A range is written as a string and read back by the parser. The string of a valid range is read
back as the range when its bounds are printed as digits; the string of an invalid range is read
back as invalid when the parser refuses it, and the string that the constructor gives to a refused
pair of bounds is not refused.

## Main definitions

* `RoundTrips`.
* `RoundTripArguments`.

## Main results

* `roundTrips_iff`, `numericRange_roundTrip`.
-/

namespace NodeOpcua

open Dimension (indexes number toRange bounds Digits Increasing)
open BinaryStream (maxStringLength writeString)
open Bool (false_eq_true)
open List (intercalate)
open NumericRange (toEncodeableString)
open String (ofList)

open Number (lt ge strictEq isFinite toChars IsIndex IsOther toChars_index toChars_not_index length_toChars_le)

/-- **The round trip**: the decoded range has the type and the value of the encoded one. -/
def RoundTrips (numericRange : NumericRange) : Prop :=
  ∃ bytes stream, encodeNumericRange numericRange = some bytes ∧
    decodeNumericRange { buffer := bytes } = .ok (numericRange, stream)

/-! ### The text of a range -/

lemma calculateByteLength_le (str : List Char) : calculateByteLength str ≤ 4 * str.length := by
  unfold calculateByteLength
  rw [BinaryStream.toUTF8_ofList]
  induction str with
  | nil => simp
  | cons c str ih =>
    have := c.utf8Size_le_four
    rw [List.flatMap_cons, List.length_append, String.length_utf8EncodeChar, List.length_cons]
    omega

variable {nr : NumericRange} {str : List Char}

/-- **A range round trips when the parser reads its text back.** -/
lemma roundTrips_iff (htext : nr.toEncodeableString = some str)
    (hlen : calculateByteLength str ≤ maxStringLength) :
    RoundTrips nr ↔ construct_numeric_range_from_string str = nr := by
  have hmax : maxStringLength = 16777216 := rfl
  have hencode : encodeNumericRange nr =
      some (writeString (some (ofList str))) := by
    unfold encodeNumericRange
    rw [htext]
    exact if_pos (by omega)
  obtain ⟨t, hread⟩ := BinaryStream.readString_writeString (s := ofList str) hlen
  have hdec : decodeNumericRange
      { buffer := writeString (some (ofList str)) } =
        .ok (construct_numeric_range_from_string str, t) := by
    unfold decodeNumericRange
    simp only [bind, StateT.bind, hread, Except.bind, String.toList_ofList]
    rfl
  constructor
  · rintro ⟨bytes, stream, hbytes, hrange⟩
    obtain rfl := Option.some.inj (hencode.symm.trans hbytes)
    rw [hdec] at hrange
    injection hrange with hrange
    exact congrArg Prod.fst hrange
  · intro h
    exact ⟨_, t, hencode, by rw [hdec, h]⟩

lemma not_roundTrips (htext : nr.toEncodeableString = some str)
    (hlen : maxStringLength < calculateByteLength str) : ¬ RoundTrips nr := by
  rintro ⟨bytes, stream, hbytes, hrange⟩
  unfold encodeNumericRange at hbytes
  rw [htext] at hbytes
  dsimp only at hbytes
  split_ifs at hbytes with hint
  obtain rfl := Option.some.inj hbytes
  have hread := BinaryStream.readString_exceeded (s := ofList str) hlen
    (by unfold calculateByteLength at hint; omega)
  unfold decodeNumericRange at hrange
  simp only [bind, StateT.bind, hread, Except.bind] at hrange
  exact absurd hrange (by simp)

lemma roundTrips_empty : RoundTrips .empty := ⟨_, _, rfl, rfl⟩

/-! ### Printed bounds -/

/-- Two bounds as they are printed. -/
def dimensionOf (low high : Number) : Dimension :=
  if strictEq low high then .index (toChars low) else .range (toChars low) (toChars high)

lemma array_range_to_string_eq (low high : Number) :
    NumericRange.array_range_to_string low high = (dimensionOf low high).render := by
  unfold NumericRange.array_range_to_string dimensionOf
  split_ifs <;> simp [Dimension.render, indexes, intercalate]

lemma parseInt_toChars {v : Number} (h : IsIndex v) : Number.parseInt (toChars v) = v := by
  obtain ⟨hne, hdigits, hvalue⟩ := toChars_index h
  rw [Number.parseInt_digits hne hdigits, hvalue]

/-- Bounds that make a range: equal, or increasing. -/
def BoundsAccepted (low high : Number) : Prop :=
  strictEq low high = true ∨ _valid_range low high = true

variable {low high : Number}

lemma eq_of_strictEq (h : strictEq low high = true) : low = high := by
  simpa using (Bool.and_eq_true_iff.mp h).2

lemma lt_of_valid_range (hlow : low ≠ .nan) (hhigh : high ≠ .nan)
    (h : _valid_range low high = true) : lt low high = true := by
  simp only [_valid_range, ge, Bool.not_eq_true', Bool.or_eq_false_iff] at h
  simpa [hlow, hhigh] using h.1.1

/-- **Two printed indexes are a dimension**, which is read as the indexes. -/
lemma dimensionOf_index (hlow : IsIndex low) (hhigh : IsIndex high) (h : BoundsAccepted low high) :
    (dimensionOf low high).Digits ∧ (dimensionOf low high).Increasing ∧
      (dimensionOf low high).bounds Number.parseInt = (low, high) := by
  obtain ⟨-, hdlow, hvlow⟩ := toChars_index hlow
  obtain ⟨-, hdhigh, hvhigh⟩ := toChars_index hhigh
  unfold dimensionOf
  split_ifs with heq
  · obtain rfl := eq_of_strictEq heq
    refine ⟨by simpa [Digits, indexes] using hdlow, trivial, ?_⟩
    simp [bounds, parseInt_toChars hlow]
  · have hlt := lt_of_valid_range hlow.ne_nan hhigh.ne_nan (h.resolve_left heq)
    refine ⟨?_, .inr (.inr ?_), ?_⟩
    · simpa [Digits, indexes] using ⟨hdlow, hdhigh⟩
    · rwa [number, number, hvlow, hvhigh]
    · simp [bounds, parseInt_toChars hlow, parseInt_toChars hhigh]

lemma dimensionOf_other (h : ¬ (IsIndex low ∧ IsIndex high)) :
    ∃ c ∈ (dimensionOf low high).render, IsOther c := by
  unfold dimensionOf
  split_ifs with heq
  · obtain rfl := eq_of_strictEq heq
    obtain ⟨c, hc, hother⟩ := toChars_not_index (v := low) (by tauto)
    exact ⟨c, by simpa [Dimension.render, indexes] using hc, hother⟩
  · by_cases hlow : IsIndex low
    · obtain ⟨c, hc, hother⟩ := toChars_not_index (v := high) (by tauto)
      exact ⟨c, by simp [Dimension.render, indexes, intercalate, hc], hother⟩
    · obtain ⟨c, hc, hother⟩ := toChars_not_index hlow
      exact ⟨c, by simp [Dimension.render, indexes, intercalate, hc], hother⟩

lemma length_dimensionOf_le (low high : Number) :
    (dimensionOf low high).render.length ≤ 4403 := by
  have hlow := length_toChars_le low
  have hhigh := length_toChars_le high
  unfold dimensionOf
  split_ifs <;> simp [Dimension.render, indexes, intercalate] <;> omega

/-! ### What the parser gives -/

lemma construct_other {c : Char} (hc : c ∈ str) (h : IsOther c) :
    construct_numeric_range_from_string str = .invalidRange str := by
  have hregex : regexNumericRange str = false := by
    rw [regexNumericRange, List.all_eq_false]
    refine ⟨c, hc, ?_⟩
    simpa [IsOther, or_assoc] using h
  simp [construct_numeric_range_from_string, hregex]

lemma rangeOf_ne {s : List Char} {dims : List Dimension} (h : Dimensions s dims)
    (read : List Char → Number) :
    (∀ value, rangeOf read dims ≠ .invalidRange value) ∧
      ∀ col, rangeOf read dims ≠ .matrixRange .refused col := by
  match dims, h.one_or_two with
  | [d], _ => cases d <;> simp [rangeOf, toRange]
  | [_, _], _ => simp [rangeOf]

/-- **The parser refuses exactly the strings that are no dimensions.** -/
lemma construct_eq_invalidRange_iff {s value : List Char} :
    construct_numeric_range_from_string s = .invalidRange value ↔
      value = s ∧ ¬ ∃ dims, Dimensions s dims := by
  constructor
  · intro h
    have hnone : ¬ ∃ dims, Dimensions s dims := by
      rintro ⟨dims, hdims⟩
      rw [construct_dimensions hdims] at h
      exact (rangeOf_ne hdims _).1 value h
    refine ⟨?_, hnone⟩
    have hs := (construct_cases s).resolve_left hnone
    rw [hs] at h
    injection h with h
    exact h.symm
  · rintro ⟨rfl, hnone⟩
    exact (construct_cases value).resolve_left hnone

lemma construct_ne_refused (s : List Char) (col : Number × Number) :
    construct_numeric_range_from_string s ≠ .matrixRange .refused col := by
  rcases construct_cases s with ⟨dims, hdims⟩ | h
  · rw [construct_dimensions hdims]
    exact (rangeOf_ne hdims _).2 col
  · simp [h]

/-! ### Each type of range -/

lemma maxStringLength_eq : maxStringLength = 16777216 := rfl

lemma text_singleValue (v : Number) :
    toEncodeableString (.singleValue v) = some (toChars v) := rfl

lemma text_invalidRange (value : List Char) :
    toEncodeableString (.invalidRange value) = some value := rfl

/-- **A single value** round trips when it is an index. -/
lemma roundTrips_singleValue (v : Number) : RoundTrips (.singleValue v) ↔ IsIndex v := by
  have hlen := calculateByteLength_le (toChars v)
  have hshort := length_toChars_le v
  have hmax := maxStringLength_eq
  rw [roundTrips_iff (text_singleValue v) (by omega)]
  constructor
  · intro h
    by_contra hv
    obtain ⟨c, hc, hother⟩ := toChars_not_index hv
    rw [construct_other hc hother] at h
    cases h
  · intro hv
    have hdims : Dimensions (toChars v) [.index (toChars v)] := by
      refine ⟨.inl rfl, by simp [Dimension.render, indexes], ?_, ?_⟩
      · simpa [Digits, indexes] using (toChars_index hv).2.1
      · simp [Increasing]
    rw [construct_dimensions hdims]
    simp [rangeOf, toRange, parseInt_toChars hv]

/-- **A range of two bounds** round trips when both are indexes. -/
lemma roundTrips_arrayRange (hne : strictEq low high = false)
    (hvalid : _valid_range low high = true) :
    RoundTrips (.arrayRange low high) ↔ IsIndex low ∧ IsIndex high := by
  have htext : toEncodeableString (.arrayRange low high) =
      some (dimensionOf low high).render := by
    rw [← array_range_to_string_eq]
    rfl
  have hlen := calculateByteLength_le (dimensionOf low high).render
  have hshort := length_dimensionOf_le low high
  have hmax := maxStringLength_eq
  rw [roundTrips_iff htext (by omega)]
  constructor
  · intro h
    by_contra hindex
    obtain ⟨c, hc, hother⟩ := dimensionOf_other hindex
    rw [construct_other hc hother] at h
    cases h
  · rintro ⟨hlow, hhigh⟩
    obtain ⟨hdigits, hinc, -⟩ := dimensionOf_index hlow hhigh (.inr hvalid)
    have hdims : Dimensions (dimensionOf low high).render [dimensionOf low high] :=
      ⟨.inl rfl, by simp, by simpa, by simpa⟩
    rw [construct_dimensions hdims]
    simp [rangeOf, dimensionOf, hne, toRange, parseInt_toChars hlow,
      parseInt_toChars hhigh]

/-- **A matrix** round trips when the four bounds are indexes. -/
lemma roundTrips_matrixRange {low high low' high' : Number} (hrow : BoundsAccepted low high)
    (hcol : BoundsAccepted low' high') :
    RoundTrips (.matrixRange (.bounds low high) (low', high')) ↔
      (IsIndex low ∧ IsIndex high) ∧ IsIndex low' ∧ IsIndex high' := by
  have htext : toEncodeableString (.matrixRange (.bounds low high) (low', high')) =
      some ((dimensionOf low high).render ++ ',' :: (dimensionOf low' high').render) := by
    rw [← array_range_to_string_eq, ← array_range_to_string_eq]
    rfl
  have hlen := calculateByteLength_le
    ((dimensionOf low high).render ++ ',' :: (dimensionOf low' high').render)
  have hshort := length_dimensionOf_le low high
  have hshort' := length_dimensionOf_le low' high'
  have hmax := maxStringLength_eq
  rw [List.length_append, List.length_cons] at hlen
  rw [roundTrips_iff htext (by omega)]
  constructor
  · intro h
    by_contra hindex
    obtain ⟨c, hc, hother⟩ : ∃ c ∈ (dimensionOf low high).render ++
        ',' :: (dimensionOf low' high').render, IsOther c := by
      by_cases hr : IsIndex low ∧ IsIndex high
      · obtain ⟨c, hc, hother⟩ := dimensionOf_other (show ¬ (IsIndex low' ∧ IsIndex high') by tauto)
        exact ⟨c, by simp [hc], hother⟩
      · obtain ⟨c, hc, hother⟩ := dimensionOf_other hr
        exact ⟨c, by simp [hc], hother⟩
    rw [construct_other hc hother] at h
    cases h
  · rintro ⟨⟨hlow, hhigh⟩, hlow', hhigh'⟩
    obtain ⟨hdigits, hinc, hbounds⟩ := dimensionOf_index hlow hhigh hrow
    obtain ⟨hdigits', hinc', hbounds'⟩ := dimensionOf_index hlow' hhigh' hcol
    have hdims : Dimensions ((dimensionOf low high).render ++ ',' ::
        (dimensionOf low' high').render) [dimensionOf low high, dimensionOf low' high'] :=
      ⟨.inr rfl, by simp [intercalate], by simp [hdigits, hdigits'], by simp [hinc, hinc']⟩
    rw [construct_dimensions hdims]
    simp [rangeOf, hbounds, hbounds']

lemma not_roundTrips_refused {col : Number × Number} :
    ¬ RoundTrips (.matrixRange .refused col) := by
  have htext : toEncodeableString (.matrixRange .refused col) =
      some (',' :: (dimensionOf col.1 col.2).render) := by
    rw [← array_range_to_string_eq]
    rfl
  have hlen := calculateByteLength_le (',' :: (dimensionOf col.1 col.2).render)
  have hshort := length_dimensionOf_le col.1 col.2
  have hmax := maxStringLength_eq
  rw [List.length_cons] at hlen
  rw [roundTrips_iff htext (by omega)]
  exact construct_ne_refused _ col

/-- **An invalid range** round trips when its value is a string that is refused. -/
lemma roundTrips_invalidRange {value : List Char}
    (hlen : calculateByteLength value ≤ maxStringLength) :
    RoundTrips (.invalidRange value) ↔ ¬ ∃ dims, Dimensions value dims := by
  rw [roundTrips_iff (text_invalidRange value) hlen, construct_eq_invalidRange_iff]
  simp

/-! ### The constructors -/

lemma dimensions_nil : ∃ dims, Dimensions [] dims := by
  refine ⟨[.index []], .inl rfl, rfl, ?_, ?_⟩
  · simp [Digits, indexes]
  · simp [Increasing]

/-- Two indexes in order. -/
def IncreasingIndexes (low high : Number) : Prop :=
  IsIndex low ∧ IsIndex high ∧ (low = high ∨ lt low high = true)

lemma valid_range_of_lt (hlow : IsIndex low) (hhigh : IsIndex high)
    (h : lt low high = true) : _valid_range low high = true := by
  simp [_valid_range, ge, h, hlow.not_neg, hhigh.not_neg]

/-- **A range of two numbers** round trips when they are indexes in order. -/
lemma roundTrips_set_range_value (hlow : isFinite low = true) (hhigh : isFinite high = true) :
    RoundTrips (_set_range_value low high) ↔ IncreasingIndexes low high := by
  have hnan : low ≠ .nan := by
    rintro rfl
    cases hlow
  have hnan' : high ≠ .nan := by
    rintro rfl
    cases hhigh
  unfold _set_range_value IncreasingIndexes
  split_ifs with heq hvalid
  · obtain rfl := eq_of_strictEq heq
    rw [roundTrips_singleValue]
    tauto
  · rw [roundTrips_invalidRange (by decide)]
    constructor
    · exact fun h => absurd dimensions_nil h
    · rintro ⟨hl, hh, rfl | hlt⟩
      · exact absurd (by simp [strictEq, hnan]) heq
      · simp [valid_range_of_lt hl hh hlt] at hvalid
  · have hvalid : _valid_range low high = true := by simpa using hvalid
    rw [roundTrips_arrayRange (by simpa using heq) hvalid]
    have := lt_of_valid_range hnan hnan' hvalid
    tauto

lemma matrixRow_set_range_value (low high : Number) :
    (BoundsAccepted low high ∧ matrixRow (_set_range_value low high) = .bounds low high) ∨
      (¬ BoundsAccepted low high ∧ matrixRow (_set_range_value low high) = .refused) := by
  unfold _set_range_value BoundsAccepted
  split_ifs with heq hvalid
  · obtain rfl := eq_of_strictEq heq
    exact .inl ⟨.inl heq, rfl⟩
  · right
    simp only [Bool.not_eq_true', heq, false_eq_true] at hvalid ⊢
    exact ⟨by simp [hvalid], rfl⟩
  · left
    exact ⟨.inr (by simpa using hvalid), rfl⟩

lemma IncreasingIndexes.accepted (h : IncreasingIndexes low high) :
    BoundsAccepted low high := by
  obtain ⟨hlow, hhigh, rfl | hlt⟩ := h
  · exact .inl (by simp [strictEq, hlow.ne_nan])
  · exact .inr (valid_range_of_lt hlow hhigh hlt)

lemma BoundsAccepted.increasing (h : BoundsAccepted low high)
    (hlow : IsIndex low) (hhigh : IsIndex high) : IncreasingIndexes low high := by
  refine ⟨hlow, hhigh, ?_⟩
  rcases h with h | h
  · exact .inl (eq_of_strictEq h)
  · exact .inr (lt_of_valid_range hlow.ne_nan hhigh.ne_nan h)

/-- **The text of an array** is refused unless its numbers are indexes. -/
lemma roundTrips_arrayToChars (low high : Number) :
    RoundTrips (.invalidRange (arrayToChars low high)) ↔ ¬ (IsIndex low ∧ IsIndex high) := by
  have hlen := calculateByteLength_le (arrayToChars low high)
  have hlow := length_toChars_le low
  have hhigh := length_toChars_le high
  have hlength : (arrayToChars low high).length = (toChars low).length + (toChars high).length + 1 := by
    simp [arrayToChars]
    omega
  have hmax := maxStringLength_eq
  rw [roundTrips_invalidRange (by omega)]
  refine not_congr ⟨?_, ?_⟩
  · rintro ⟨dims, hdims⟩
    by_contra hindex
    obtain ⟨c, hc, hother⟩ : ∃ c ∈ arrayToChars low high, IsOther c := by
      by_cases hl : IsIndex low
      · obtain ⟨c, hc, hother⟩ := toChars_not_index (v := high) (by tauto)
        exact ⟨c, by simp [arrayToChars, hc], hother⟩
      · obtain ⟨c, hc, hother⟩ := toChars_not_index hl
        exact ⟨c, by simp [arrayToChars, hc], hother⟩
    exact (construct_eq_invalidRange_iff.mp (construct_other hc hother)).2 ⟨dims, hdims⟩
  · rintro ⟨hl, hh⟩
    refine ⟨[.index (toChars low), .index (toChars high)], .inr rfl, ?_, ?_, ?_⟩
    · simp [arrayToChars, Dimension.render, indexes, intercalate]
    · have := (toChars_index hl).2.1
      have := (toChars_index hh).2.1
      simp only [List.forall_mem_cons, Digits, indexes]
      simp_all
    · simp [Increasing]

/-- **A string** round trips when its indexes have digits and are not too large, and when it is
short if it is refused. -/
def RoundTripString (s : List Char) : Prop :=
  (∀ dims, Dimensions s dims →
      ∀ d ∈ dims, ∀ i ∈ d.indexes, i ≠ [] ∧ IsIndex (number i)) ∧
    ((¬ ∃ dims, Dimensions s dims) → calculateByteLength s ≤ maxStringLength)

/-- A second value that is no range with bounds. -/
def SecondValue.Refused : SecondValue → Prop
  | .undefined => True
  | .number value => isFinite value = false ∨ lt value (.ofNat 0) = true
  | .array [low, high] =>
    isFinite low = false ∨ isFinite high = false ∨ ¬ BoundsAccepted low high
  | .array _ => True

/-- The numbers of a second value are indexes. -/
def SecondValue.Indexes : SecondValue → Prop
  | .undefined => True
  | .number value => IsIndex value
  | .array value => ∀ v ∈ value, IsIndex v

/-- **The arguments** for which the range that is built from them round trips. -/
def RoundTripArguments : FirstValue → SecondValue → Prop
  | .null, _ => True
  | .string s, _ => RoundTripString s
  | .number v, .undefined => isFinite v = false ∨ lt v (.ofNat 0) = true ∨ IsIndex v
  | .number v, .number w => isFinite v = false ∨ isFinite w = false ∨ IncreasingIndexes v w
  | .number _, .array _ => True
  | .array [low, high], second =>
    isFinite low = true ∧ isFinite high = true →
      (second.truthy = false → IncreasingIndexes low high) ∧
      (second.truthy = true ∧ second.Refused → ¬ (IsIndex low ∧ IsIndex high)) ∧
      (second.truthy = true ∧ ¬ second.Refused → IncreasingIndexes low high ∧ second.Indexes)
  | .array _, _ => True

lemma strictEq_of_valid_range (h : _valid_range low high = true) :
    strictEq low high = false := by
  by_contra heq
  obtain rfl := eq_of_strictEq (by simpa using heq)
  have hnan : low ≠ .nan := by
    rintro rfl
    simp [strictEq] at heq
  simp [_valid_range, ge, hnan] at h

lemma accepted_bounds {d : Dimension} (hd : d.Digits) (hinc : d.Increasing) :
    BoundsAccepted (d.bounds Number.parseInt).1 (d.bounds Number.parseInt).2 := by
  cases d with
  | index digits =>
    by_cases hnan : Number.parseInt digits = .nan
    · right
      simp [bounds, hnan, _valid_range, ge]
    · left
      simp [bounds, strictEq, hnan]
  | range low high =>
    right
    exact (_valid_range_parseInt (hd low (by simp [indexes]))
      (hd high (by simp [indexes]))).mpr hinc

lemma isIndex_bounds (d : Dimension) :
    (IsIndex (d.bounds Number.parseInt).1 ∧ IsIndex (d.bounds Number.parseInt).2) ↔
      ∀ i ∈ d.indexes, IsIndex (Number.parseInt i) := by
  cases d <;> simp [bounds, indexes]

/-- **What is read round trips** when each index is read as a number below `10 ^ 21`. -/
lemma roundTrips_rangeOf {s : List Char} {dims : List Dimension} (h : Dimensions s dims) :
    RoundTrips (rangeOf Number.parseInt dims) ↔
      ∀ d ∈ dims, ∀ i ∈ d.indexes, IsIndex (Number.parseInt i) := by
  match dims, h.one_or_two with
  | [.index digits], _ =>
    simpa [rangeOf, toRange, indexes] using
      roundTrips_singleValue (Number.parseInt digits)
  | [.range low high], _ =>
    have hd := h.digits (.range low high) (by simp)
    have hvalid := (_valid_range_parseInt (hd low (by simp [indexes]))
      (hd high (by simp [indexes]))).mpr (h.increasing _ (by simp))
    simpa [rangeOf, toRange, indexes] using
      roundTrips_arrayRange (strictEq_of_valid_range hvalid) hvalid
  | [row, col], _ =>
    have hrow := accepted_bounds (h.digits row (by simp)) (h.increasing row (by simp))
    have hcol := accepted_bounds (h.digits col (by simp)) (h.increasing col (by simp))
    have := roundTrips_matrixRange hrow hcol
    rw [isIndex_bounds, isIndex_bounds] at this
    simpa [rangeOf] using this

/-- An index is read as a number below `10 ^ 21` when it has digits and is such a number. -/
lemma isIndex_parseInt {digits : List Char} (h : ∀ c ∈ digits, c.isDigit) :
    IsIndex (Number.parseInt digits) ↔ digits ≠ [] ∧ IsIndex (number digits) := by
  by_cases hne : digits = []
  · subst hne
    simpa using fun h : IsIndex Number.nan => h.ne_nan rfl
  · rw [Number.parseInt_digits hne h]
    simp [hne, number]

/-- **A string** is read as a range that round trips when its indexes are printed as digits. -/
lemma roundTrips_string (s : List Char) :
    RoundTrips (construct_numeric_range_from_string s) ↔ RoundTripString s := by
  rcases construct_cases s with ⟨dims, hdims⟩ | hinval
  · have hindexes : ∀ dims', Dimensions s dims' →
        (RoundTrips (construct_numeric_range_from_string s) ↔
          ∀ d ∈ dims', ∀ i ∈ d.indexes, i ≠ [] ∧ IsIndex (number i)) := by
      intro dims' h
      rw [construct_dimensions h, roundTrips_rangeOf h]
      refine forall₂_congr fun d hd => forall₂_congr fun i hi => ?_
      exact isIndex_parseInt (h.digits d hd i hi)
    constructor
    · intro h
      exact ⟨fun dims' hdims' => (hindexes dims' hdims').mp h, fun hnone => absurd ⟨dims, hdims⟩ hnone⟩
    · intro h
      exact (hindexes dims hdims).mpr (h.1 dims hdims)
  · have hnone := (construct_eq_invalidRange_iff.mp hinval).2
    rw [hinval]
    constructor
    · intro h
      refine ⟨fun dims hdims => absurd ⟨dims, hdims⟩ hnone, fun _ => ?_⟩
      by_contra hlen
      exact not_roundTrips (text_invalidRange s) (by omega) h
    · intro h
      rwa [roundTrips_invalidRange (h.2 hnone)]

/-- **One number** round trips when it is an index, or when it is refused by its sign. -/
lemma roundTrips_set_single_value {v : Number} (hv : isFinite v = true) :
    RoundTrips (_set_single_value v) ↔ lt v (.ofNat 0) = true ∨ IsIndex v := by
  have hlen := calculateByteLength_le (toChars v)
  have hshort := length_toChars_le v
  have hmax := maxStringLength_eq
  unfold _set_single_value
  by_cases hneg : lt v (.ofNat 0) = true
  · have hindex : ¬ IsIndex v := by
      intro h
      simp [h.not_neg] at hneg
    obtain ⟨c, hc, hother⟩ := toChars_not_index hindex
    have hnone := (construct_eq_invalidRange_iff.mp (construct_other hc hother)).2
    simpa [hneg] using (roundTrips_invalidRange (by omega)).mpr hnone
  · simp [hneg, hv, roundTrips_singleValue]

/-- **A number** and a second value. -/
lemma roundTrips_number (v : Number) (second : SecondValue) :
    RoundTrips (construct_from_number v second) ↔ RoundTripArguments (.number v) second := by
  have hempty := iff_of_true roundTrips_empty trivial
  cases second with
  | undefined =>
    by_cases hv : isFinite v = true
    · simpa [construct_from_number, RoundTripArguments, hv] using roundTrips_set_single_value hv
    · simpa [construct_from_number, RoundTripArguments, hv] using hempty
  | number w =>
    by_cases hv : isFinite v = true
    · by_cases hw : isFinite w = true
      · simpa [construct_from_number, RoundTripArguments, hv, hw] using
          roundTrips_set_range_value hv hw
      · simpa [construct_from_number, RoundTripArguments, hw] using hempty
    · simpa [construct_from_number, RoundTripArguments, hv] using hempty
  | array value => exact hempty

lemma normalize_range {second : SecondValue} (h : second.range = some nr) :
    (second.Refused ∧ _normalize nr = none) ∨
      (¬ second.Refused ∧ ∃ low high, _normalize nr = some (low, high) ∧ BoundsAccepted low high ∧
        (second.Indexes ↔ IsIndex low ∧ IsIndex high)) := by
  match second with
  | .undefined =>
    obtain rfl := Option.some.inj h
    exact .inl ⟨trivial, rfl⟩
  | .number v =>
    obtain rfl := Option.some.inj h
    by_cases hv : isFinite v = true
    · by_cases hneg : lt v (.ofNat 0) = true
      · left
        simp [SecondValue.Refused, construct_from_number, _set_single_value, hv, hneg, _normalize]
      · have hnan : v ≠ .nan := by
          rintro rfl
          cases hv
        right
        simp [SecondValue.Refused, SecondValue.Indexes, construct_from_number, _set_single_value,
          hv, hneg, _normalize, BoundsAccepted, strictEq, hnan]
    · left
      simp [SecondValue.Refused, construct_from_number, hv, _normalize]
  | .array [low, high] =>
    by_cases hlow : isFinite low = true
    · by_cases hhigh : isFinite high = true
      · have hnr : nr = _set_range_value low high := by
          simpa [SecondValue.range, construct_from_bounds, hlow, hhigh, eq_comm] using h
        subst hnr
        simp only [SecondValue.Refused, SecondValue.Indexes, hlow, hhigh, Bool.true_eq_false,
          false_or, not_not, List.forall_mem_cons, List.not_mem_nil, IsEmpty.forall_iff,
          implies_true, and_true]
        unfold _set_range_value BoundsAccepted
        split_ifs with heq hvalid
        · obtain rfl := eq_of_strictEq heq
          exact .inr ⟨.inl heq, low, low, rfl, .inl heq, Iff.rfl⟩
        · left
          simp only [Bool.not_eq_true', heq, false_eq_true, false_or] at hvalid ⊢
          exact ⟨by simp [hvalid], rfl⟩
        · have hvalid : _valid_range low high = true := by simpa using hvalid
          exact .inr ⟨.inr hvalid, low, high, rfl, .inr hvalid, Iff.rfl⟩
      · have hnr : nr = .invalidRange (arrayToChars low high) := by
          simpa [SecondValue.range, construct_from_bounds, hhigh, eq_comm] using h
        subst hnr
        exact .inl ⟨.inr (.inl (by simpa using hhigh)), rfl⟩
    · have hnr : nr = .invalidRange (arrayToChars low high) := by
        simpa [SecondValue.range, construct_from_bounds, hlow, eq_comm] using h
      subst hnr
      exact .inl ⟨.inl (by simpa using hlow), rfl⟩
  | .array [] | .array [_] | .array (_ :: _ :: _ :: _) => cases h

/-- **An array of bounds**, with a second value. -/
lemma roundTrips_array {second : SecondValue}
    (h : _construct_from_array [low, high] second = some nr) :
    RoundTrips nr ↔ RoundTripArguments (.array [low, high]) second := by
  unfold _construct_from_array at h
  by_cases hlow : isFinite low = true
  swap
  · have hnr : nr = .invalidRange (arrayToChars low high) := by
      simpa [hlow, eq_comm] using h
    have hindex : ¬ IsIndex low := fun hi => hlow hi.isFinite
    rw [hnr, roundTrips_arrayToChars]
    simp [RoundTripArguments, hlow, hindex]
  by_cases hhigh : isFinite high = true
  swap
  · have hnr : nr = .invalidRange (arrayToChars low high) := by
      simpa [hhigh, eq_comm] using h
    have hindex : ¬ IsIndex high := fun hi => hhigh hi.isFinite
    rw [hnr, roundTrips_arrayToChars]
    simp [RoundTripArguments, hhigh, hindex]
  simp only [hlow, hhigh, Bool.not_true, Bool.or_self, false_eq_true, if_false] at h
  simp only [RoundTripArguments, hlow, hhigh, and_self, true_imp_iff]
  by_cases htruthy : second.truthy = true
  · simp only [htruthy, Bool.not_true, false_eq_true, if_false, Option.map_eq_some_iff] at h
    obtain ⟨nr2, hrange, rfl⟩ := h
    simp only [htruthy, Bool.true_eq_false, false_imp_iff, true_and]
    rcases normalize_range hrange with ⟨href, hnone⟩ | ⟨haccepted, low', high', hcol, hacc', hindexes⟩
    · rw [hnone]
      simpa [href] using roundTrips_arrayToChars low high
    · rw [hcol]
      simp only [haccepted, false_imp_iff, true_and, not_false_eq_true, true_imp_iff, hindexes]
      rcases matrixRow_set_range_value low high with ⟨hacc, hrow⟩ | ⟨href, hrow⟩
      · rw [hrow, roundTrips_matrixRange hacc hacc']
        refine and_congr_left fun _ => ⟨fun hi => hacc.increasing hi.1 hi.2, fun hi => ?_⟩
        exact ⟨hi.1, hi.2.1⟩
      · rw [hrow]
        exact iff_of_false not_roundTrips_refused fun hi => href hi.1.accepted
  · have hnr : nr = _set_range_value low high := by
      simpa [htruthy, eq_comm] using h
    rw [hnr]
    simpa [htruthy] using roundTrips_set_range_value hlow hhigh

/-- **The round trip of every constructor.** A range that is built round trips exactly when its
arguments print indexes as digits or are refused with a text that the parser refuses too: a pair of
bounds that is refused leaves the empty text, which the parser takes for a valid range. -/
theorem numericRange_roundTrip (value : FirstValue) (second : SecondValue) (nr : NumericRange)
    (h : NumericRange.new value second = some nr) :
    RoundTrips nr ↔ RoundTripArguments value second := by
  match value with
  | .null =>
    obtain rfl := Option.some.inj h
    exact iff_of_true roundTrips_empty trivial
  | .string s =>
    obtain rfl := Option.some.inj h
    exact roundTrips_string s
  | .number v =>
    obtain rfl := Option.some.inj h
    exact roundTrips_number v second
  | .array [low, high] => exact roundTrips_array h
  | .array [] | .array [_] | .array (_ :: _ :: _ :: _) => cases h

/-- The range of `3` and `5`. -/
theorem numericRange_roundTrip_bounds :
    NumericRange.new (.number (.ofNat 3)) (.number (.ofNat 5)) =
        some (.arrayRange (.ofNat 3) (.ofNat 5)) ∧
      RoundTrips (.arrayRange (.ofNat 3) (.ofNat 5)) := by
  have hnew : NumericRange.new (.number (.ofNat 3)) (.number (.ofNat 5)) =
      some (.arrayRange (.ofNat 3) (.ofNat 5)) := by decide +kernel
  have hindex : ∀ n : ℕ, n ≤ 2 ^ 53 → IsIndex (.ofNat n) := by
    intro n hn
    obtain ⟨x, hx, hval⟩ := Number.ofNat_exact hn
    exact ⟨x, hx, n, hval, by omega⟩
  refine ⟨hnew, (numericRange_roundTrip _ _ _ hnew).mpr (.inr (.inr ⟨?_, ?_, .inr ?_⟩))⟩
  · exact hindex 3 (by norm_num)
  · exact hindex 5 (by norm_num)
  · decide +kernel

/-- **A refused pair of bounds is decoded as a valid range**: the bounds `5` and `3`. -/
theorem numericRange_not_roundTrip :
    NumericRange.new (.number (.ofNat 5)) (.number (.ofNat 3)) = some (.invalidRange []) ∧
      (∃ bytes stream, encodeNumericRange (.invalidRange []) = some bytes ∧
        decodeNumericRange { buffer := bytes } = .ok (.singleValue .nan, stream)) ∧
      NumericRange.isValid (.singleValue .nan) = true ∧
      ¬ ∀ value second nr, NumericRange.new value second = some nr → RoundTrips nr := by
  have hnew : NumericRange.new (.number (.ofNat 5)) (.number (.ofNat 3)) =
      some (.invalidRange []) := by decide +kernel
  refine ⟨hnew, ⟨_, _, rfl, rfl⟩, rfl, fun h => ?_⟩
  exact (roundTrips_invalidRange (by decide)).mp (h _ _ _ hnew) dimensions_nil

end NodeOpcua
