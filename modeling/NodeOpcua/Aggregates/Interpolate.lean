import Mathlib.Data.Nat.Bitwise
import Mathlib.Data.Rat.Defs
import Mathlib.Tactic.Ring
import Mathlib.Tactic.FieldSimp
import NodeOpcua.Aggregates.Interval

set_option autoImplicit false

/-!
# The interpolative aggregate

The value of a history at a time: a raw value, a point of the line between the values around the time,
or an extrapolation of the last ones.

## Main definitions

* `interpolatedValue`, `InterpolatesRight`.

## Design

* The times are integers and the values are rational numbers. A division by zero has no value.
-/

namespace NodeOpcua

/-! ### The source -/

/-- A value of the history. -/
structure RawValue where
  sourceTimestamp : ℤ
  statusCode : StatusCode
  value : ℚ

/-- The options of the aggregate. -/
structure InterpolationOptions where
  treatUncertainAsBad : Bool
  useSlopedExtrapolation : Bool
  stepped : Bool

/-- The answer: a raw value, `BadNoData` without a value, or a value that is computed. -/
inductive Interpolated
  | raw (dataValue : RawValue)
  | noData
  | computed (statusCode : StatusCode) (value : Option ℚ)

/-- A value that the searches stop at. -/
def isUsable (bTreatUncertainAsBad : Bool) (dataValue : RawValue) : Bool :=
  if bTreatUncertainAsBad then dataValue.statusCode.isGood else !dataValue.statusCode.isBad

section

variable (dataValues : List RawValue) (bTreatUncertainAsBad : Bool)

/-- `_findGoodDataValueBefore`: the value with its index; `none` is the index -1. -/
def _findGoodDataValueBefore : ℕ → Option (ℕ × RawValue)
  | 0 => none
  | index + 1 =>
    match dataValues[index]? with
    | some dataValue1 =>
      if isUsable bTreatUncertainAsBad dataValue1 then some (index, dataValue1)
      else _findGoodDataValueBefore index
    | none => _findGoodDataValueBefore index

end

/-- The loop of `_findGoodDataValueAfter`, over the values from an index on. -/
def findGoodFrom (bTreatUncertainAsBad : Bool) : ℕ → List RawValue → Option (ℕ × RawValue)
  | _, [] => none
  | index, dataValue1 :: dataValues =>
    if isUsable bTreatUncertainAsBad dataValue1 then some (index, dataValue1)
    else findGoodFrom bTreatUncertainAsBad (index + 1) dataValues

/-- `_findGoodDataValueAfter`. -/
def _findGoodDataValueAfter (dataValues : List RawValue) (index : ℕ) (bTreatUncertainAsBad : Bool) :
    Option (ℕ × RawValue) :=
  findGoodFrom bTreatUncertainAsBad index (dataValues.drop index)

/-- `HistorianInterpolated`. -/
def HistorianInterpolated : ℕ := 0x2

/-- `interpolateValue`: the status, and the value. -/
def interpolateValue (dataValue1 dataValue2 : RawValue) (date : ℤ) : StatusCode × Option ℚ :=
  let t0 : ℚ := dataValue1.sourceTimestamp
  let t : ℚ := date
  let t1 : ℚ := dataValue2.sourceTimestamp
  let coef1 := (t - t0) / (t1 - t0)
  let coef2 := (t1 - t) / (t1 - t0)
  (dataValue1.statusCode.makeStatusCode HistorianInterpolated,
    if t1 = t0 then none else some (coef2 * dataValue1.value + coef1 * dataValue2.value))

/-- `UncertainDataSubNormal` with the lower bits of a status, which are added to its number. -/
def subNormal (statusCode : StatusCode) : StatusCode :=
  ⟨StatusCode.UncertainDataSubNormal.value + statusCode.value % 0x1000000⟩

/-- `steppedValue`. -/
def steppedValue (previousDataValue : RawValue) : Interpolated :=
  .computed (StatusCode.UncertainDataSubNormal.makeStatusCode HistorianInterpolated)
    (some previousDataValue.value)

section

variable (options : InterpolationOptions) (dataValues : List RawValue) (startTime : ℤ)

/-- `interpolatedValue`, beyond the end of the history. -/
def extrapolatedValue : Interpolated :=
  match _findGoodDataValueBefore dataValues options.treatUncertainAsBad dataValues.length with
  | none | some (0, _) => .noData
  | some (prev1 + 1, dataValue1) =>
    if options.useSlopedExtrapolation then
      match _findGoodDataValueBefore dataValues options.treatUncertainAsBad (prev1 + 1) with
      | none | some (0, _) => steppedValue dataValue1
      | some (prev2 + 1, dataValue2) =>
        let (statusCode, value) := interpolateValue dataValue2 dataValue1 startTime
        if prev2 + 1 < prev1 ∨ prev1 + 2 < dataValues.length then
          .computed (subNormal statusCode) value
        else .computed statusCode value
    else steppedValue dataValue1

/-- `interpolatedValue`, for the interval from a time on. -/
def interpolatedValue : Except String Interpolated :=
  -- the index of the interval is that of the first value from its start on
  let index := dataValues.findIdx fun dataValue => startTime ≤ dataValue.sourceTimestamp
  match dataValues[index]? with
  | none => .ok (extrapolatedValue options dataValues startTime)
  | some dataValue1 =>
    if !dataValue1.statusCode.isBad ∧ dataValue1.sourceTimestamp = startTime then
      .ok (.raw dataValue1)
    else
      match _findGoodDataValueBefore dataValues options.treatUncertainAsBad index with
      | none => .ok .noData
      | some (before, beforeValue) =>
        if options.stepped then
          if before + 1 = index then
            .ok (.computed (beforeValue.statusCode.makeStatusCode HistorianInterpolated)
              (some beforeValue.value))
          else .ok (steppedValue beforeValue)
        else
          match _findGoodDataValueAfter dataValues index options.treatUncertainAsBad with
          -- the value that stands for none has no timestamp
          | none => .error "Cannot read properties of null (reading 'getTime')"
          | some (next, nextValue) =>
            let (statusCode, value) := interpolateValue beforeValue nextValue startTime
            if before + 1 < next ∨ !nextValue.statusCode.isGood ∨ !beforeValue.statusCode.isGood then
              .ok (.computed (subNormal statusCode) value)
            else .ok (.computed statusCode value)

end

/-! ### What is expected -/

/-- The last element of a list that has a property, with those before and those after it. -/
def splitLast {A : Type} (P : A → Bool) : List A → Option (List A × A × List A)
  | [] => none
  | a :: l =>
    match splitLast P l with
    | some (l₁, b, l₂) => some (a :: l₁, b, l₂)
    | none => if P a then some ([], a, l) else none

/-- The first element of a list that has a property, with those before it. -/
def splitFirst {A : Type} (P : A → Bool) : List A → Option (List A × A)
  | [] => none
  | a :: l => if P a then some ([], a) else (splitFirst P l).map fun (l₁, b) => (a :: l₁, b)

/-- The value is on the line through two others at a time. -/
def OnLine (p q : RawValue) (t : ℤ) (value : ℚ) : Prop :=
  (value - p.value) * (q.sourceTimestamp - p.sourceTimestamp) =
    (q.value - p.value) * (t - p.sourceTimestamp)

section

variable (options : InterpolationOptions) (dataValues : List RawValue) (t : ℤ)

/-- The history before the time. -/
def valuesBefore : List RawValue := dataValues.takeWhile fun v => v.sourceTimestamp < t

/-- The history from the time on. -/
def valuesFrom : List RawValue := dataValues.dropWhile fun v => v.sourceTimestamp < t

/-- A raw value that is not bad exists at the time. -/
def IsRawAt (v : RawValue) : Prop :=
  v ∈ dataValues ∧ v.sourceTimestamp = t ∧ v.statusCode.isBad = false

/-- **An extrapolation** of the last usable value, with the ones before it: it is stepped, or sloped when
there are two usable values. -/
def Extrapolates (earlier : List RawValue) (p : RawValue) (value : ℚ) : Prop :=
  ((options.useSlopedExtrapolation = false ∨ options.stepped = true) ∧ value = p.value) ∨
    options.useSlopedExtrapolation = true ∧
      match splitLast (isUsable options.treatUncertainAsBad) earlier with
      | none => value = p.value
      | some (_, p', _) => OnLine p' p t value

/-- **The expected answer.** -/
def Expected (answer : Interpolated) : Prop :=
  ((∃ v, IsRawAt dataValues t v) → ∃ v, IsRawAt dataValues t v ∧ answer = .raw v) ∧
  ((¬ ∃ v, IsRawAt dataValues t v) →
    match splitLast (isUsable options.treatUncertainAsBad) (valuesBefore dataValues t) with
    | none => answer = .noData
    | some (earlier, p, skipped) => ∃ statusCode value, answer = .computed statusCode (some value) ∧
      match splitFirst (isUsable options.treatUncertainAsBad) (valuesFrom dataValues t) with
      | none => Extrapolates options t earlier p value
      | some (skipped', q) =>
        if options.stepped then
          value = p.value ∧ (isUncertain statusCode ↔ skipped ≠ [] ∨ isUncertain p.statusCode)
        else OnLine p q t value ∧ (isUncertain statusCode ↔
          skipped ++ skipped' ≠ [] ∨ isUncertain p.statusCode ∨ isUncertain q.statusCode))

/-- **The aggregate interpolates right**: it throws nothing, and gives the expected answer. -/
def InterpolatesRight : Prop :=
  ∃ answer, interpolatedValue options dataValues t = .ok answer ∧ Expected options dataValues t answer

/-- The condition beyond the end of the history: the last usable value is not the first one, and when it
is extrapolated by a slope, neither is the one before it, which has another time. -/
def ExtrapolationCondition (earlier : List RawValue) (p : RawValue) : Prop :=
  earlier ≠ [] ∧ (options.useSlopedExtrapolation = true →
    match splitLast (isUsable options.treatUncertainAsBad) earlier with
    | none => True
    | some (first, p', _) =>
      if first = [] then options.stepped = true ∨ p'.value = p.value
      else p'.sourceTimestamp ≠ p.sourceTimestamp)

/-- **The condition.** -/
def InterpolationCondition : Prop :=
  ((∃ v, IsRawAt dataValues t v) →
    ∀ v ∈ (valuesFrom dataValues t).head?, v.statusCode.isBad = false) ∧
  ((¬ ∃ v, IsRawAt dataValues t v) →
    match splitLast (isUsable options.treatUncertainAsBad) (valuesBefore dataValues t) with
    | none => True
    | some (earlier, p, skipped) =>
      match splitFirst (isUsable options.treatUncertainAsBad) (valuesFrom dataValues t) with
      | none =>
        if valuesFrom dataValues t = [] then ExtrapolationCondition options earlier p
        else options.stepped = true
      | some (skipped', q) => options.stepped = true ∨ skipped ++ skipped' ≠ [] ∨
          isUncertain p.statusCode ∨ isUncertain q.statusCode ∨
          p.statusCode.isGood ∧ q.statusCode.isGood)

end

/-! ### The searches -/

section

variable {A : Type} {P : A → Bool}

lemma splitLast_concat (l : List A) (a : A) :
    splitLast P (l ++ [a]) =
      if P a then some (l, a, []) else (splitLast P l).map fun (l₁, b, l₂) => (l₁, b, l₂ ++ [a]) := by
  induction l with
  | nil => simp [splitLast]
  | cons c l ih =>
    rw [List.cons_append, splitLast, ih, splitLast]
    cases P a with
    | true => rfl
    | false =>
      cases splitLast P l with
      | some found => rfl
      | none => cases P c <;> rfl

lemma splitLast_some {l l₁ l₂ : List A} {a : A} (h : splitLast P l = some (l₁, a, l₂)) :
    l = l₁ ++ a :: l₂ ∧ P a = true := by
  induction l generalizing l₁ with
  | nil => cases h
  | cons c l ih =>
    rw [splitLast] at h
    split at h
    · next hfound =>
      cases h
      obtain ⟨rfl, ha⟩ := ih hfound
      exact ⟨rfl, ha⟩
    · split_ifs at h with hc
      cases h
      exact ⟨rfl, hc⟩

lemma splitFirst_some {l l₁ : List A} {a : A} (h : splitFirst P l = some (l₁, a)) :
    a ∈ l ∧ P a = true := by
  induction l generalizing l₁ with
  | nil => cases h
  | cons c l ih =>
    rw [splitFirst] at h
    split_ifs at h with hc
    · cases h
      exact ⟨List.mem_cons_self, hc⟩
    · obtain ⟨⟨l₁, b⟩, hfound, heq⟩ := Option.map_eq_some_iff.mp h
      cases heq
      exact ⟨List.mem_cons_of_mem _ (ih hfound).1, (ih hfound).2⟩

end

lemma findBefore_eq (dataValues : List RawValue) (b : Bool) {n : ℕ} (hn : n ≤ dataValues.length) :
    _findGoodDataValueBefore dataValues b n =
      (splitLast (isUsable b) (dataValues.take n)).map fun (l₁, p, _) => (l₁.length, p) := by
  induction n with
  | zero => rfl
  | succ n ih =>
    have hlt : n < dataValues.length := hn
    rw [_findGoodDataValueBefore, List.getElem?_eq_getElem hlt,
      List.take_succ_eq_append_getElem hlt, splitLast_concat, ih hlt.le]
    dsimp only
    split_ifs
    · simp [hlt.le]
    · rw [Option.map_map]
      rfl

lemma findGoodFrom_eq (b : Bool) (l : List RawValue) (index : ℕ) :
    findGoodFrom b index l =
      (splitFirst (isUsable b) l).map fun (l₁, q) => (index + l₁.length, q) := by
  induction l generalizing index with
  | nil => rfl
  | cons v l ih =>
    rw [findGoodFrom, splitFirst, ih]
    split_ifs
    · rfl
    · rw [Option.map_map]
      congr 1
      funext x
      simp [Nat.add_assoc, Nat.add_comm 1]

/-! ### The statuses -/

lemma isUncertain_iff {statusCode : StatusCode} (h : statusCode.value < 0x80000000) :
    isUncertain statusCode = true ↔ 0x40000000 ≤ statusCode.value := by
  have hne : statusCode ≠ .BadNoData := by
    rintro rfl
    revert h
    decide
  have hbit : statusCode.value &&& 0x40000000 =
      (decide (statusCode.value / 0x40000000 % 2 = 1)).toNat * 0x40000000 := by
    rw [show 0x40000000 = 2 ^ 30 by norm_num, Nat.and_two_pow, Nat.testBit_eq_decide_div_mod_eq]
  simp only [isUncertain, hbit, hne, ne_eq, not_false_eq_true, and_true, decide_eq_true_eq]
  by_cases hdiv : statusCode.value / 0x40000000 % 2 = 1
  · simp only [hdiv, decide_true, Bool.toNat_true, one_mul, true_iff]
    omega
  · simp only [hdiv, decide_false, Bool.toNat_false, zero_mul]
    omega

lemma isUncertain_subNormal (statusCode : StatusCode) : isUncertain (subNormal statusCode) = true := by
  have hvalue : (subNormal statusCode).value = 0x40a40000 + statusCode.value % 0x1000000 := rfl
  exact (isUncertain_iff (by omega)).mpr (by omega)

lemma isUncertain_interpolated {statusCode : StatusCode} (h : statusCode.isBad = false) :
    isUncertain (statusCode.makeStatusCode HistorianInterpolated) = isUncertain statusCode := by
  have hlt : statusCode.value < 2 ^ 31 := by simpa [StatusCode.isBad] using h
  have hor : (statusCode.makeStatusCode HistorianInterpolated).value < 2 ^ 31 :=
    Nat.or_lt_two_pow hlt (by decide)
  rw [Bool.eq_iff_iff, isUncertain_iff hlt, isUncertain_iff hor]
  refine ⟨fun hge => ?_, fun hge => hge.trans Nat.left_le_or⟩
  by_contra hsmall
  have hsmall' : statusCode.value ||| HistorianInterpolated < 2 ^ 30 :=
    Nat.or_lt_two_pow (Nat.lt_of_not_le hsmall) (by decide)
  exact absurd hge (Nat.not_le.mpr hsmall')

/-! ### The line -/

lemma interpolateValue_onLine {p q : RawValue} (t : ℤ) (hne : q.sourceTimestamp ≠ p.sourceTimestamp) :
    ∃ value, (interpolateValue p q t).2 = some value ∧ OnLine p q t value := by
  have hne : (q.sourceTimestamp : ℚ) ≠ p.sourceTimestamp := by exact_mod_cast hne
  refine ⟨_, if_neg hne, ?_⟩
  unfold OnLine
  field_simp
  ring

/-! ### The history around the time -/

section

variable {options : InterpolationOptions} {dataValues : List RawValue} {t : ℤ}

variable (dataValues t) in
lemma append_values : valuesBefore dataValues t ++ valuesFrom dataValues t = dataValues :=
  List.takeWhile_append_dropWhile

lemma mem_of_head_from {v : RawValue} (h : (valuesFrom dataValues t).head? = some v) : v ∈ dataValues := by
  rw [← append_values dataValues t]
  exact List.mem_append_right _ (List.mem_of_mem_head? h)

lemma lt_of_mem_before {v : RawValue} (h : v ∈ valuesBefore dataValues t) : v.sourceTimestamp < t := by
  simpa using List.mem_takeWhile_imp h

lemma le_of_mem_from (hord : dataValues.Pairwise fun v w => v.sourceTimestamp ≤ w.sourceTimestamp)
    {v : RawValue} (h : v ∈ valuesFrom dataValues t) : t ≤ v.sourceTimestamp := by
  induction dataValues with
  | nil => cases h
  | cons w l ih =>
    obtain ⟨hle, hord⟩ := List.pairwise_cons.mp hord
    by_cases hw : w.sourceTimestamp < t
    · rw [valuesFrom, List.dropWhile_cons_of_pos (by simpa using hw)] at h
      exact ih hord h
    · rw [valuesFrom, List.dropWhile_cons_of_neg (by simpa using hw)] at h
      rcases List.mem_cons.mp h with rfl | h
      · exact Int.not_lt.mp hw
      · exact (Int.not_lt.mp hw).trans (hle v h)

lemma findIdx_eq : (dataValues.findIdx fun v => decide (t ≤ v.sourceTimestamp)) =
    (valuesBefore dataValues t).length := by
  unfold valuesBefore
  induction dataValues with
  | nil => rfl
  | cons v l ih =>
    by_cases hv : v.sourceTimestamp < t
    · simp [List.findIdx_cons, hv, ih, Int.not_le.mpr hv]
    · simp [List.findIdx_cons, hv, Int.not_lt.mp hv]

lemma take_drop_index : dataValues.take (valuesBefore dataValues t).length = valuesBefore dataValues t ∧
    dataValues.drop (valuesBefore dataValues t).length = valuesFrom dataValues t :=
  List.append_inj ((List.take_append_drop _ _).trans (append_values _ _).symm)
    (List.length_take_of_le (List.takeWhile_sublist _).length_le)

lemma findBefore_index (b : Bool) :
    _findGoodDataValueBefore dataValues b (valuesBefore dataValues t).length =
      (splitLast (isUsable b) (valuesBefore dataValues t)).map fun (l₁, p, _) => (l₁.length, p) := by
  have hle : (valuesBefore dataValues t).length ≤ dataValues.length :=
    (List.takeWhile_sublist _).length_le
  rw [findBefore_eq dataValues b hle, take_drop_index.1]

lemma findAfter_index (b : Bool) :
    _findGoodDataValueAfter dataValues (valuesBefore dataValues t).length b =
      (splitFirst (isUsable b) (valuesFrom dataValues t)).map fun (l₁, q) =>
        ((valuesBefore dataValues t).length + l₁.length, q) := by
  rw [_findGoodDataValueAfter, take_drop_index.2, findGoodFrom_eq]

lemma interpolatedValue_within {v : RawValue} (hv : (valuesFrom dataValues t).head? = some v) :
    interpolatedValue options dataValues t =
      if !v.statusCode.isBad ∧ v.sourceTimestamp = t then .ok (.raw v)
      else
        match splitLast (isUsable options.treatUncertainAsBad) (valuesBefore dataValues t) with
        | none => .ok .noData
        | some (_, p, skipped) =>
          if options.stepped then
            .ok (.computed (if skipped = [] then p.statusCode.makeStatusCode HistorianInterpolated
              else StatusCode.UncertainDataSubNormal.makeStatusCode HistorianInterpolated)
              (some p.value))
          else
            match splitFirst (isUsable options.treatUncertainAsBad) (valuesFrom dataValues t) with
            | none => .error "Cannot read properties of null (reading 'getTime')"
            | some (skipped', q) =>
              .ok (.computed
                (if skipped ++ skipped' ≠ [] ∨ !q.statusCode.isGood ∨ !p.statusCode.isGood then
                  subNormal (p.statusCode.makeStatusCode HistorianInterpolated)
                else p.statusCode.makeStatusCode HistorianInterpolated)
                (interpolateValue p q t).2) := by
  have hget : dataValues[(valuesBefore dataValues t).length]? = some v := by
    rw [← List.head?_drop, take_drop_index.2, hv]
  rw [interpolatedValue, findIdx_eq]
  rw [hget, findBefore_index, findAfter_index]
  refine if_congr Iff.rfl rfl ?_
  cases hbefore : splitLast (isUsable options.treatUncertainAsBad) (valuesBefore dataValues t) with
  | none => rfl
  | some found =>
    obtain ⟨earlier, p, skipped⟩ := found
    have hlength := congrArg List.length (splitLast_some hbefore).1
    rw [List.length_append, List.length_cons] at hlength
    have hskipped : earlier.length + 1 = (valuesBefore dataValues t).length ↔ skipped = [] := by
      rw [← List.length_eq_zero_iff]
      omega
    simp only [Option.map_some, hskipped]
    refine if_congr Iff.rfl (by split_ifs <;> rfl) ?_
    cases splitFirst (isUsable options.treatUncertainAsBad) (valuesFrom dataValues t) with
    | none => rfl
    | some found' =>
      obtain ⟨skipped', q⟩ := found'
      have hne : earlier.length + 1 < (valuesBefore dataValues t).length + skipped'.length ↔
          skipped ++ skipped' ≠ [] := by
        rw [← List.length_pos_iff_ne_nil, List.length_append]
        omega
      simp only [Option.map_some, hne]
      split_ifs
      · rfl
      · rfl

variable (options) in
lemma interpolatedValue_beyond (hfrom : valuesFrom dataValues t = []) : ∃ statusCode,
    interpolatedValue options dataValues t =
      match splitLast (isUsable options.treatUncertainAsBad) (valuesBefore dataValues t) with
      | none => .ok .noData
      | some (earlier, p, _) =>
        if earlier = [] then .ok .noData
        else .ok (.computed statusCode
          (if options.useSlopedExtrapolation then
            match splitLast (isUsable options.treatUncertainAsBad) earlier with
            | none => some p.value
            | some (first, p', _) => if first = [] then some p.value else (interpolateValue p' p t).2
          else some p.value)) := by
  have hbefore : valuesBefore dataValues t = dataValues := by
    have happend := append_values dataValues t
    rwa [hfrom, List.append_nil] at happend
  rw [interpolatedValue, findIdx_eq, hbefore]
  rw [List.getElem?_eq_none le_rfl, extrapolatedValue, findBefore_eq _ _ le_rfl, List.take_length]
  cases hlast : splitLast (isUsable options.treatUncertainAsBad) dataValues with
  | none => exact ⟨.Good, rfl⟩
  | some found =>
    obtain ⟨earlier, p, skipped⟩ := found
    have htake : dataValues.take earlier.length = earlier := by
      rw [(splitLast_some hlast).1, List.take_left]
    have hle : earlier.length ≤ dataValues.length := by
      rw [(splitLast_some hlast).1, List.length_append]
      omega
    have hprev := findBefore_eq dataValues options.treatUncertainAsBad hle
    rw [htake] at hprev
    cases earlier with
    | nil => exact ⟨.Good, rfl⟩
    | cons v earlier =>
      simp only [Option.map_some, List.length_cons, reduceCtorEq, if_false] at hprev ⊢
      rw [hprev]
      cases options.useSlopedExtrapolation with
      | false => exact ⟨_, rfl⟩
      | true =>
        cases splitLast (isUsable options.treatUncertainAsBad) (v :: earlier) with
        | none => exact ⟨_, rfl⟩
        | some found' =>
          obtain ⟨first, p', between⟩ := found'
          cases first with
          | nil => exact ⟨_, rfl⟩
          | cons w first =>
            simp only [Option.map_some, List.length_cons, reduceCtorEq, if_true, if_false]
            split_ifs
            · exact ⟨_, rfl⟩
            · exact ⟨_, rfl⟩

lemma IsRawAt.mem_from {v : RawValue} (hv : IsRawAt dataValues t v) : v ∈ valuesFrom dataValues t := by
  obtain ⟨hmem, htime, -⟩ := hv
  rw [← append_values dataValues t] at hmem
  rcases List.mem_append.mp hmem with hmem | hmem
  · exact absurd htime (lt_of_mem_before hmem).ne
  · exact hmem

lemma IsRawAt.head_from (hord : dataValues.Pairwise fun v w => v.sourceTimestamp ≤ w.sourceTimestamp)
    {v : RawValue} (hv : IsRawAt dataValues t v) :
    ∃ w, (valuesFrom dataValues t).head? = some w ∧ w.sourceTimestamp = t := by
  have hmem := hv.mem_from
  have hsorted := hord.sublist (List.dropWhile_sublist fun v => decide (v.sourceTimestamp < t))
  change (valuesFrom dataValues t).Pairwise _ at hsorted
  cases hfrom : valuesFrom dataValues t with
  | nil =>
    rw [hfrom] at hmem
    cases hmem
  | cons w l =>
    have hle : t ≤ w.sourceTimestamp := le_of_mem_from hord (hfrom ▸ List.mem_cons_self)
    refine ⟨w, rfl, le_antisymm ?_ hle⟩
    rw [hfrom] at hmem hsorted
    rcases List.mem_cons.mp hmem with rfl | hmem
    · exact hv.2.1.le
    · exact ((List.pairwise_cons.mp hsorted).1 v hmem).trans_eq hv.2.1

lemma isBad_of_isUsable {b : Bool} {v : RawValue} (h : isUsable b v = true) :
    v.statusCode.isBad = false := by
  cases b with
  | true => simp_all [isUsable, StatusCode.isGood, StatusCode.isBad]
  | false => simpa [isUsable] using h

/-! ### The answers -/

section

variable {p : RawValue} {earlier skipped : List RawValue}
  (hlast : splitLast (isUsable options.treatUncertainAsBad) (valuesBefore dataValues t) =
    some (earlier, p, skipped))
include hlast

lemma extrapolates_iff (statusCode : StatusCode) :
    (∃ s value, Interpolated.computed statusCode
        (if options.useSlopedExtrapolation then
          match splitLast (isUsable options.treatUncertainAsBad) earlier with
          | none => some p.value
          | some (first, p', _) => if first = [] then some p.value else (interpolateValue p' p t).2
        else some p.value) = .computed s (some value) ∧ Extrapolates options t earlier p value) ↔
      (options.useSlopedExtrapolation = true →
        match splitLast (isUsable options.treatUncertainAsBad) earlier with
        | none => True
        | some (first, p', _) =>
          if first = [] then options.stepped = true ∨ p'.value = p.value
          else p'.sourceTimestamp ≠ p.sourceTimestamp) := by
  have hp : p.sourceTimestamp < t :=
    lt_of_mem_before ((splitLast_some hlast).1 ▸ List.mem_append_right _ List.mem_cons_self)
  unfold Extrapolates
  cases options.useSlopedExtrapolation with
  | false => simp
  | true =>
    cases splitLast (isUsable options.treatUncertainAsBad) earlier with
    | none => simp
    | some found =>
      obtain ⟨first, p', between⟩ := found
      by_cases hfirst : first = []
      · have hline : OnLine p' p t p.value ↔ p'.value = p.value := by
          have hsub : (t : ℚ) - p.sourceTimestamp ≠ 0 := by
            rw [sub_ne_zero]
            exact_mod_cast hp.ne'
          unfold OnLine
          rw [← sub_eq_zero, ← mul_sub, mul_eq_zero, or_iff_left, sub_eq_zero]
          · exact eq_comm
          · rw [sub_sub_sub_cancel_right, ← neg_sub, neg_eq_zero]
            exact hsub
        simp [hfirst, hline]
      · by_cases htime : p.sourceTimestamp = p'.sourceTimestamp
        · simp [hfirst, htime, interpolateValue]
        · obtain ⟨value, hvalue, hline⟩ := interpolateValue_onLine t htime
          simp [hfirst, hvalue, hline, Ne.symm htime]

lemma stepped_status : isUncertain (if skipped = [] then
      p.statusCode.makeStatusCode HistorianInterpolated
    else StatusCode.UncertainDataSubNormal.makeStatusCode HistorianInterpolated) = true ↔
      skipped ≠ [] ∨ isUncertain p.statusCode := by
  have hp := isBad_of_isUsable (splitLast_some hlast).2
  split_ifs with hnil
  · rw [isUncertain_interpolated hp]
    simp [hnil]
  · simpa [hnil] using by decide

end

lemma not_isUncertain_of_isGood {statusCode : StatusCode} (h : statusCode.isGood = true) :
    isUncertain statusCode = false := by
  have hzero : statusCode.value = 0 := by simpa [StatusCode.isGood] using h
  simp [isUncertain, hzero]

lemma sloped_status {p q : RawValue} {skipped : List RawValue} :
    (isUncertain (if skipped ≠ [] ∨ (!q.statusCode.isGood) = true ∨ (!p.statusCode.isGood) = true then
        subNormal (p.statusCode.makeStatusCode HistorianInterpolated)
      else p.statusCode.makeStatusCode HistorianInterpolated) = true ↔
      skipped ≠ [] ∨ isUncertain p.statusCode ∨ isUncertain q.statusCode) ↔
    skipped ≠ [] ∨ isUncertain p.statusCode ∨ isUncertain q.statusCode ∨
      p.statusCode.isGood ∧ q.statusCode.isGood := by
  by_cases hgood : p.statusCode.isGood = true ∧ q.statusCode.isGood = true
  · have hbad : p.statusCode.isBad = false := by
      simp_all [StatusCode.isGood, StatusCode.isBad]
    have hp := not_isUncertain_of_isGood hgood.1
    have hq := not_isUncertain_of_isGood hgood.2
    by_cases hnil : skipped = []
    · simp [hnil, hgood, hp, hq, isUncertain_interpolated hbad]
    · simp [hnil, isUncertain_subNormal]
  · rw [if_pos, isUncertain_subNormal]
    · simp [hgood]
    · by_contra hnot
      simp only [Bool.not_eq_true', not_or, Bool.not_eq_false] at hnot
      exact hgood ⟨hnot.2.2, hnot.2.1⟩

/-- **The interpolative aggregate** of an ordered history is the expected one exactly under the
condition. -/
theorem interpolatesRight_iff (options : InterpolationOptions) (dataValues : List RawValue) (t : ℤ)
    (hord : dataValues.Pairwise fun v w => v.sourceTimestamp ≤ w.sourceTimestamp) :
    InterpolatesRight options dataValues t ↔ InterpolationCondition options dataValues t := by
  unfold InterpolatesRight Expected InterpolationCondition
  by_cases hraw : ∃ v, IsRawAt dataValues t v
  · obtain ⟨w, hw, htime⟩ := hraw.choose_spec.head_from hord
    simp only [hraw, true_implies, not_true_eq_false, false_implies, and_true, hw,
      Option.mem_some_iff, forall_eq']
    rw [interpolatedValue_within hw]
    constructor
    · rintro ⟨answer, hanswer, v, -, rfl⟩
      by_contra hbad
      rw [if_neg (by simp [hbad])] at hanswer
      split at hanswer
      · cases hanswer
      · by_cases hstepped : options.stepped = true
        · rw [if_pos hstepped] at hanswer
          cases hanswer
        · rw [if_neg hstepped] at hanswer
          split at hanswer
          · cases hanswer
          · cases hanswer
    · intro hbad
      exact ⟨.raw w, if_pos ⟨by simp [hbad], htime⟩, w, ⟨mem_of_head_from hw, htime, hbad⟩, rfl⟩
  · simp only [hraw, false_implies, not_false_eq_true, true_implies, true_and]
    cases hfrom : valuesFrom dataValues t with
    | nil =>
      obtain ⟨statusCode, heq⟩ := interpolatedValue_beyond options hfrom
      rw [heq]
      cases hlast : splitLast (isUsable options.treatUncertainAsBad) (valuesBefore dataValues t) with
      | none => simp
      | some found =>
        obtain ⟨earlier, p, skipped⟩ := found
        simp only [splitFirst, if_true, ExtrapolationCondition]
        by_cases hnil : earlier = []
        · simp [hnil]
        · simpa [hnil] using extrapolates_iff hlast statusCode
    | cons v l =>
      have hhead : (valuesFrom dataValues t).head? = some v := hfrom ▸ rfl
      have hnot : ¬ ((!v.statusCode.isBad) = true ∧ v.sourceTimestamp = t) := by
        rintro ⟨hbad, htime⟩
        exact hraw ⟨v, mem_of_head_from hhead, htime, by simpa using hbad⟩
      rw [interpolatedValue_within hhead, if_neg hnot]
      cases hlast : splitLast (isUsable options.treatUncertainAsBad) (valuesBefore dataValues t) with
      | none => simp
      | some found =>
        obtain ⟨earlier, p, skipped⟩ := found
        have hstatus := stepped_status hlast
        rw [hfrom]
        cases hstepped : options.stepped with
        | true =>
          cases splitFirst (isUsable options.treatUncertainAsBad) (v :: l) with
          | none => simp [Extrapolates, hstepped]
          | some found' => simpa using hstatus
        | false =>
          cases hfirst : splitFirst (isUsable options.treatUncertainAsBad) (v :: l) with
          | none => simp
          | some found' =>
            obtain ⟨skipped', q⟩ := found'
            have hp : p.sourceTimestamp < t := lt_of_mem_before
              ((splitLast_some hlast).1 ▸ List.mem_append_right _ List.mem_cons_self)
            have hq : t ≤ q.sourceTimestamp :=
              le_of_mem_from hord (hfrom ▸ (splitFirst_some hfirst).1)
            obtain ⟨value, hvalue, hline⟩ := interpolateValue_onLine t (hp.trans_le hq).ne'
            dsimp only
            rw [hvalue, ← sloped_status]
            simp [hline]

end

/-- Between two good values. -/
theorem interpolatesRight_between :
    InterpolatesRight ⟨false, true, false⟩ [⟨0, .Good, 5⟩, ⟨10, .Good, 15⟩] 4 := by
  refine (interpolatesRight_iff _ _ _ (by decide)).mpr ⟨fun _ v hv => ?_, fun _ => ?_⟩
  · cases hv
    rfl
  · exact Or.inr (Or.inr (Or.inr (Or.inr ⟨rfl, rfl⟩)))

/-- **The first value is not extrapolated.** -/
theorem interpolatesRight_first_only :
    ¬ InterpolatesRight ⟨false, false, false⟩ [⟨0, .Good, 5⟩] 10 := by
  rintro ⟨answer, hanswer, -, hexpected⟩
  cases hanswer
  obtain ⟨statusCode, value, hvalue, -⟩ := hexpected (by simp [IsRawAt])
  cases hvalue

end NodeOpcua
