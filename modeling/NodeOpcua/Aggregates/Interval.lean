import NodeOpcua.HistoricalAccess.HistoryRead
import NodeOpcua.Library.NumberArithmetic
import NodeOpcua.Library.Windows

set_option autoImplicit false

/-!
# The intervals of a processed read

The domain of a processed read is divided into intervals. `getInterval` finds the raw values of an
interval, and `calculateCountValue` counts the good ones.

## Main definitions

* `Interval`, `getInterval`.
* `calculateCountValue`, `Interval.values`.

## Main results

* `getInterval_eq_ok`, `calculateCountValue_eq_ok`.
-/

namespace NodeOpcua

open BuiltIn
open Number (ge lt minimum ofInt ofNat ofInt_exact lt_iff_extended)

variable {U : CaseMapping} {X : Type}

/-! ### Times -/

/-- The number of a date. -/
def Date.toNumber (date : Date) : Number := .ofInt date.getTime

/-- `dataValue.sourceTimestamp!.getTime()`. -/
def getSourceTime (dataValue : BuiltIn.DataValue U X) : Except String ℤ :=
  match dataValue.sourceTimestamp with
  | some sourceTimestamp => .ok sourceTimestamp.getTime
  | none => .error "Cannot read properties of null (reading 'getTime')"

/-- `dataValues[i].sourceTimestamp!.getTime()`. -/
def timeAt (dataValues : List (BuiltIn.DataValue U X)) (i : ℕ) : Except String ℤ :=
  match dataValues[i]? with
  | some dataValue => getSourceTime dataValue
  | none => .error "Cannot read properties of undefined (reading 'sourceTimestamp')"

/-! ### Intervals -/

/-- **An interval**. The index is that of its first raw value; `none` is -1. -/
structure Interval (U : CaseMapping) (X : Type) where
  startTime : Date
  dataValues : List (BuiltIn.DataValue U X)
  index : Option ℕ
  count : ℕ
  isPartial : Bool
  processingInterval : Number

/-- The first loop of `getInterval`, from an index on. -/
def findIndex (startTime : Date) : ℕ → List (BuiltIn.DataValue U X) → Except String (Option ℕ)
  | _, [] => .ok none
  | i, dataValue :: dataValues => do
    if (← getSourceTime dataValue) < startTime.getTime then findIndex startTime (i + 1) dataValues
    else return some i

/-- The second loop of `getInterval`. -/
def countValues (endTime : Number) : List (BuiltIn.DataValue U X) → Except String ℕ
  | [] => .ok 0
  | dataValue :: dataValues => do
    if ge (.ofInt (← getSourceTime dataValue)) endTime then return 0
    else return (← countValues endTime dataValues) + 1

section

variable (endTime : Number) (dataValues : List (BuiltIn.DataValue U X))

/-- The number of raw values from an index on, none without an index. -/
def countFrom :
    Option ℕ → Except String ℕ
  | some i => countValues endTime (dataValues.drop i)
  | none => .ok 0

/-- The interval has the last raw value, which is before its end. -/
def isPartialAtEnd (count : ℕ) :
    Option ℕ → Except String Bool
  | some i =>
    if dataValues.length ≤ i + count then
      (fun t => lt (.ofInt t) endTime) <$> timeAt dataValues (dataValues.length - 1)
    else .ok false
  | none => .ok false

end

/-- The interval has the first raw value, or none, and starts before it. -/
def isPartialAtStart (startTime : Date) (dataValues : List (BuiltIn.DataValue U X)) (index : Option ℕ) :
    Except String Bool :=
  if index = none ∨ index = some 0 then
    (fun t => decide (startTime.getTime < t)) <$> timeAt dataValues 0
  else .ok false

/-- `getInterval`. -/
def getInterval (startTime : Date) (processingInterval : Number) (indexHint : ℕ)
    (dataValues : List (BuiltIn.DataValue U X)) : Except String (Interval U X) := do
  let endTime := startTime.toNumber.add processingInterval
  let index ← findIndex startTime indexHint (dataValues.drop indexHint)
  let count ← countFrom endTime dataValues index
  let atEnd ← isPartialAtEnd endTime dataValues count index
  let atStart ← isPartialAtStart startTime dataValues index
  return { startTime, dataValues, index, count, isPartial := atEnd || atStart, processingInterval }

namespace Interval

variable (interval : Interval U X)

/-- `getEffectiveEndTime`. -/
def getEffectiveEndTime : Except String Number :=
  let e := interval.startTime.toNumber.add interval.processingInterval
  match interval.dataValues.reverse.find? fun dataValue => dataValue.statusCode ≠ .BadNoData with
  | none => .ok e
  | some last => (fun t => minimum e (.ofInt (t + 1))) <$> getSourceTime last

/-- `duration`. -/
def duration : Except String Number := do
  let t1 ← timeAt interval.dataValues (interval.index.getD 0)
  return (← interval.getEffectiveEndTime).sub (.ofInt t1)

/-- `regionDuration`. -/
def regionDuration (index : ℕ) : Except String Number := do
  let t1 ← timeAt interval.dataValues index
  let e ← interval.getEffectiveEndTime
  let t2 ←
    if index + 1 < interval.dataValues.length then
      (fun t => minimum (.ofInt t) e) <$> timeAt interval.dataValues (index + 1)
    else pure e
  return t2.sub (.ofInt t1)

/-- The raw values of an interval. -/
def values : List (BuiltIn.DataValue U X) :=
  match interval.index with
  | some i => (interval.dataValues.drop i).take interval.count
  | none => []

end Interval

/-! ### The count -/

/-- `isUncertain`. -/
def isUncertain (statusCode : StatusCode) : Bool :=
  statusCode.value &&& 0x40000000 = 0x40000000 ∧ statusCode ≠ .BadNoData

/-- What the loop of `calculateCountValue` counts. -/
structure CountState where
  isPartial : Bool
  nbBad : ℕ := 0
  nbGood : ℕ := 0
  nbUncertain : ℕ := 0
  badDuration : Number := .ofNat 0
  uncertainDuration : Number := .ofNat 0

/-- The raw value at an index is counted. -/
def CountState.next (interval : Interval U X) (s : CountState) (i : ℕ)
    (dataValue : BuiltIn.DataValue U X) : Except String CountState :=
  if dataValue.statusCode = .BadNoData then .ok { s with isPartial := true }
  else do
    let regionDuration ← interval.regionDuration i
    if dataValue.statusCode.isBad then
      return { s with nbBad := s.nbBad + 1, badDuration := s.badDuration.add regionDuration }
    else if isUncertain dataValue.statusCode then
      return { s with
        nbUncertain := s.nbUncertain + 1
        uncertainDuration := s.uncertainDuration.add regionDuration }
    else if dataValue.statusCode.isGoodish then return { s with nbGood := s.nbGood + 1 }
    else return s

/-- The loop of `calculateCountValue`, over raw values from an index on. -/
def countLoop (interval : Interval U X) (s : CountState) :
    ℕ → List (BuiltIn.DataValue U X) → Except String CountState
  | _, [] => .ok s
  | i, dataValue :: dataValues => do
    countLoop interval (← s.next interval i dataValue) (i + 1) dataValues

/-- A result without a value. -/
def statusResult (interval : Interval U X) (statusCode : StatusCode) : BuiltIn.DataValue U X :=
  .mk none statusCode (some interval.startTime) 0 none 0

section

variable (interval : Interval U X) (options : AggregateConfigurationOptions)

/-- Whether the interval is bad: the part of the time that is bad reaches the limit. -/
def isBadInterval (s : CountState) : Except String Bool := do
  if 0 < s.nbBad then
    let duration ← interval.duration
    let badDuration :=
      if options.treatUncertainAsBad then s.badDuration.add s.uncertainDuration else s.badDuration
    let actualPercentDataBad := (badDuration.div duration).mul (.ofNat 100)
    return actualPercentDataBad.ge (.ofNat (options.percentDataBad.getD 100))
  else return false

/-- `calculateCountValue`. -/
def calculateCountValue :
    Except String (BuiltIn.DataValue U X) := do
  let s ← countLoop interval { isPartial := interval.isPartial } (interval.index.getD 0)
    interval.values
  let partialFlag := if s.isPartial then StatusCode.HistorianPartial else 0
  if ← isBadInterval interval options s then return statusResult interval .Bad
  else
    let statusCode :=
      if 0 < s.nbUncertain ∨ 0 < s.nbBad then
        StatusCode.UncertainDataSubNormal.makeStatusCode
          (StatusCode.HistorianCalculated ||| partialFlag)
      else StatusCode.Good.makeStatusCode (StatusCode.HistorianCalculated ||| partialFlag)
    if s.nbUncertain = 0 ∧ s.nbGood = 0 then return statusResult interval .BadNoData
    else
      return .mk (some (.scalar (.uint32 (BitVec.ofNat 32 s.nbGood)))) statusCode
        (some interval.startTime) 0 none 0

end

/-! ### Time-ordered histories -/

/-- **A time-ordered history**: every value has a time, and none is before an earlier one. -/
structure TimeOrdered (dataValues : List (BuiltIn.DataValue U X)) : Prop where
  timed : ∀ v ∈ dataValues, v.sourceTimestamp ≠ none
  ordered : dataValues.Pairwise fun v w => sourceTime v ≤ sourceTime w

variable {dataValues : List (BuiltIn.DataValue U X)}

lemma TimeOrdered.filter (h : TimeOrdered dataValues)
    (P : BuiltIn.DataValue U X → Bool) : TimeOrdered (dataValues.filter P) where
  timed := fun v hv => h.timed v (List.mem_of_mem_filter hv)
  ordered := h.ordered.sublist List.filter_sublist

lemma getSourceTime_eq {value : BuiltIn.DataValue U X} (h : value.sourceTimestamp ≠ none) :
    getSourceTime value = .ok (sourceTime value) := by
  obtain ⟨date, hdate⟩ := Option.ne_none_iff_exists'.mp h
  rw [getSourceTime, sourceTime, hdate]
  rfl

lemma exists_timeAt
    (h : ∀ v ∈ dataValues, v.sourceTimestamp ≠ none) {i : ℕ} (hi : i < dataValues.length) :
    ∃ t, timeAt dataValues i = .ok t := by
  rw [timeAt, List.getElem?_eq_getElem hi]
  exact ⟨_, getSourceTime_eq (h _ (List.getElem_mem hi))⟩

lemma findIndex_eq (h : ∀ v ∈ dataValues, v.sourceTimestamp ≠ none) (startTime : Date) (i : ℕ) :
    findIndex startTime i dataValues =
      .ok (if dataValues.dropWhile (fun v => sourceTime v < startTime.getTime) = [] then none
        else some (i + (dataValues.takeWhile fun v => sourceTime v < startTime.getTime).length)) := by
  induction dataValues generalizing i with
  | nil => rfl
  | cons value dataValues ih =>
    rw [List.forall_mem_cons] at h
    rw [findIndex, getSourceTime_eq h.1]
    dsimp only [bind, Except.bind]
    by_cases hlt : sourceTime value < startTime.getTime
    · rw [if_pos hlt, ih h.2, List.dropWhile_cons_of_pos (by simpa using hlt),
        List.takeWhile_cons_of_pos (by simpa using hlt), List.length_cons]
      congr 3
      omega
    · rw [if_neg hlt, List.dropWhile_cons_of_neg (by simpa using hlt),
        List.takeWhile_cons_of_neg (by simpa using hlt), if_neg (List.cons_ne_nil _ _)]
      rfl

lemma ge_eq_not_lt {x y : Number} (hx : x ≠ .nan) (hy : y ≠ .nan) : x.ge y = !x.lt y := by
  simp [ge, hx, hy]

lemma ofInt_ne_nan (n : ℤ) : ofInt n ≠ .nan := by
  unfold ofInt
  split_ifs
  · exact Number.neg_ne_nan (Number.ofNat_ne_nan _)
  · exact Number.ofNat_ne_nan _

lemma countValues_eq
    (h : ∀ v ∈ dataValues, v.sourceTimestamp ≠ none) {endTime : Number} (hend : endTime ≠ .nan) :
    countValues endTime dataValues =
      .ok (dataValues.takeWhile fun v => (ofInt (sourceTime v)).lt endTime).length := by
  induction dataValues with
  | nil => rfl
  | cons value dataValues ih =>
    rw [List.forall_mem_cons] at h
    rw [countValues, getSourceTime_eq h.1]
    dsimp only [bind, Except.bind]
    rw [ge_eq_not_lt (ofInt_ne_nan _) hend, List.takeWhile_cons]
    cases (ofInt (sourceTime value)).lt endTime with
    | false => rfl
    | true =>
      rw [Bool.not_true, if_neg Bool.false_ne_true, ih h.2, if_pos rfl, List.length_cons]
      rfl

section

variable {α : Type} {P : α → Bool} {l : List α} (h : l.Pairwise fun a b => P b = true → P a = true)
include h

lemma takeWhile_eq_filter : l.takeWhile P = l.filter P := by
  induction l with
  | nil => rfl
  | cons a l ih =>
    rw [List.pairwise_cons] at h
    by_cases ha : P a = true
    · rw [List.takeWhile_cons_of_pos ha, List.filter_cons_of_pos ha, ih h.2]
    · rw [List.takeWhile_cons_of_neg ha, List.filter_cons_of_neg ha]
      symm
      rw [List.filter_eq_nil_iff]
      exact fun b hb hPb => ha (h.1 b hb hPb)

lemma dropWhile_eq_filter :
    l.dropWhile P = l.filter fun a => !P a := by
  induction l with
  | nil => rfl
  | cons a l ih =>
    rw [List.pairwise_cons] at h
    by_cases ha : P a = true
    · rw [List.dropWhile_cons_of_pos ha, List.filter_cons_of_neg (by simpa using ha), ih h.2]
    · rw [List.dropWhile_cons_of_neg ha, List.filter_cons_of_pos (by simpa using ha)]
      congr 1
      symm
      rw [List.filter_eq_self]
      intro b hb
      simpa using fun hPb => ha (h.1 b hb hPb)

end

/-! ### The values of an interval -/

/-- **A value is in the interval that starts at a time**, as it is computed: not before the start,
and before the sum of the start and the processing interval. -/
def beforeEnd (processingInterval : Number) (start time : ℤ) : Prop :=
  (ofInt time).lt ((ofInt start).add processingInterval) = true

instance (processingInterval : Number) : DecidableRel (beforeEnd processingInterval) :=
  fun _ _ => inferInstanceAs (Decidable (_ = true))

/-- A processing interval is a positive number, or infinite. -/
def IsPositive (processingInterval : Number) : Prop :=
  (ofNat 0).lt processingInterval = true

lemma abs_sourceTime_le (value : BuiltIn.DataValue U X) : |sourceTime value| ≤ 2 ^ 53 := by
  unfold sourceTime
  cases value.sourceTimestamp with
  | none => simp
  | some date =>
    have := date.valid
    simp only [Option.map_some, Option.getD_some]
    rw [abs_le]
    omega

lemma abs_getTime_le (date : Date) : |date.getTime| ≤ 2 ^ 53 := by
  have := date.valid
  rw [abs_le]
  omega

lemma ofInt_lt_iff {a b : ℤ} (ha : |a| ≤ 2 ^ 53) (hb : |b| ≤ 2 ^ 53) :
    (ofInt a).lt (.ofInt b) = true ↔ a < b := by
  obtain ⟨x, hx, hxa⟩ := ofInt_exact ha
  obtain ⟨y, hy, hyb⟩ := ofInt_exact hb
  rw [hx, hy]
  simp [lt, hxa, hyb]

variable {processingInterval : Number}

section

variable (hpi : IsPositive processingInterval)
include hpi

lemma add_positive {a : ℤ} (ha : |a| ≤ 2 ^ 53) :
    (ofInt a).add processingInterval ≠ .nan ∧ ∀ b : ℤ, a ≤ b → |b| ≤ 2 ^ 53 →
      ((ofInt a).add processingInterval).extended ≤
        ((ofInt b).add processingInterval).extended := by
  obtain ⟨x, hx, hxa⟩ := ofInt_exact ha
  rw [hx]
  cases processingInterval with
  | nan => simp [IsPositive] at hpi
  | infinity negative =>
    cases negative with
    | true => simp [IsPositive, lt, ofNat] at hpi
    | false =>
      refine ⟨Number.noConfusion, fun b hab hb => ?_⟩
      obtain ⟨y, hy, hyb⟩ := ofInt_exact hb
      rw [hy]
      exact le_rfl
  | finite p =>
    refine ⟨Number.ofRational_ne_nan _, fun b hab hb => ?_⟩
    obtain ⟨y, hy, hyb⟩ := ofInt_exact hb
    rw [hy]
    apply Number.extended_ofRational_mono
    have : (a : ℚ) ≤ b := by exact_mod_cast hab
    linarith

lemma beforeEnd_mono
    {start start' time : ℤ} (hstart : |start| ≤ 2 ^ 53) (hstart' : |start'| ≤ 2 ^ 53)
    (h : start ≤ start') (hbefore : beforeEnd processingInterval start time) :
    beforeEnd processingInterval start' time := by
  unfold beforeEnd at *
  obtain ⟨hne, hmono⟩ := add_positive hpi hstart
  obtain ⟨hne', -⟩ := add_positive hpi hstart'
  rw [lt_iff_extended (ofInt_ne_nan time) hne] at hbefore
  rw [lt_iff_extended (ofInt_ne_nan time) hne']
  exact hbefore.trans_le (hmono start' h hstart')

lemma beforeEnd_of_le {start time time' : ℤ} (hstart : |start| ≤ 2 ^ 53) (htime : |time| ≤ 2 ^ 53)
    (htime' : |time'| ≤ 2 ^ 53) (h : time ≤ time')
    (hbefore : beforeEnd processingInterval start time') :
    beforeEnd processingInterval start time := by
  unfold beforeEnd at *
  obtain ⟨hne, -⟩ := add_positive hpi hstart
  rw [lt_iff_extended (ofInt_ne_nan _) hne] at *
  refine lt_of_le_of_lt ?_ hbefore
  rcases h.eq_or_lt with rfl | hlt
  · exact le_rfl
  · exact (((lt_iff_extended (ofInt_ne_nan _) (ofInt_ne_nan _)).mp
      ((ofInt_lt_iff htime htime').mpr hlt))).le

end

lemma drop_length_takeWhile {α : Type} (P : α → Bool) (l : List α) :
    l.drop (l.takeWhile P).length = l.dropWhile P := by
  have h : (l.takeWhile P ++ l.dropWhile P).drop (l.takeWhile P).length = l.dropWhile P :=
    List.drop_left
  rwa [List.takeWhile_append_dropWhile] at h

lemma exists_isPartial
    (h : ∀ v ∈ dataValues, v.sourceTimestamp ≠ none) (hne : dataValues ≠ []) (endTime : Number)
    (startTime : Date) (count : ℕ) (index : Option ℕ) :
    (∃ b, isPartialAtEnd endTime dataValues count index = .ok b) ∧
      ∃ b, isPartialAtStart startTime dataValues index = .ok b := by
  have hpos := List.length_pos_of_ne_nil hne
  constructor
  · cases index with
    | none => exact ⟨false, rfl⟩
    | some i =>
      obtain ⟨t, ht⟩ := exists_timeAt h (show dataValues.length - 1 < dataValues.length by omega)
      rw [isPartialAtEnd, ht]
      split_ifs
      · exact ⟨_, rfl⟩
      · exact ⟨false, rfl⟩
  · obtain ⟨t, ht⟩ := exists_timeAt h hpos
    rw [isPartialAtStart, ht]
    split_ifs
    · exact ⟨_, rfl⟩
    · exact ⟨false, rfl⟩

lemma takeWhile_dropWhile_eq (h : TimeOrdered dataValues)
    (hpi : IsPositive processingInterval) (startTime : Date) :
    (dataValues.dropWhile fun v => sourceTime v < startTime.getTime).takeWhile (fun v =>
        (ofInt (sourceTime v)).lt (startTime.toNumber.add processingInterval)) =
      dataValues.filter fun v =>
        Windows.In (beforeEnd processingInterval) (sourceTime v) startTime.getTime := by
  have hskip : dataValues.Pairwise fun v w =>
      (decide (sourceTime w < startTime.getTime)) = true →
        (decide (sourceTime v < startTime.getTime)) = true := by
    refine h.ordered.imp fun {v w} hvw hw => ?_
    simp only [decide_eq_true_eq] at *
    omega
  rw [dropWhile_eq_filter hskip, takeWhile_eq_filter, List.filter_filter]
  · apply List.filter_congr
    intro v _
    rw [Bool.eq_iff_iff, decide_eq_true_iff, Bool.and_eq_true, Bool.not_eq_true',
      decide_eq_false_iff_not, not_lt, and_comm]
    rfl
  · refine (h.filter _).ordered.imp fun {v w} hvw hw => ?_
    exact beforeEnd_of_le hpi (abs_getTime_le startTime) (abs_sourceTime_le v) (abs_sourceTime_le w)
      hvw hw

/-- **The interval that starts at a time** has the values of a time-ordered history that are in it,
and its index and count stay within the history. -/
theorem getInterval_eq_ok (h : TimeOrdered dataValues)
    (hne : dataValues ≠ []) (hpi : IsPositive processingInterval) (startTime : Date) :
    ∃ interval, getInterval startTime processingInterval 0 dataValues = .ok interval ∧
      interval.startTime = startTime ∧ interval.dataValues = dataValues ∧
      interval.values = dataValues.filter (fun v =>
        Windows.In (beforeEnd processingInterval) (sourceTime v) startTime.getTime) ∧
      (interval.values ≠ [] → ∃ i, interval.index = some i ∧
        i + interval.values.length ≤ dataValues.length) := by
  have hend : startTime.toNumber.add processingInterval ≠ .nan :=
    (add_positive hpi (abs_getTime_le startTime)).1
  have hvals := takeWhile_dropWhile_eq h hpi startTime
  have hlen : (dataValues.takeWhile fun v => sourceTime v < startTime.getTime).length +
      (dataValues.dropWhile fun v => sourceTime v < startTime.getTime).length =
        dataValues.length := by
    rw [← List.length_append, List.takeWhile_append_dropWhile]
  unfold getInterval
  rw [List.drop_zero, findIndex_eq h.timed, Nat.zero_add]
  dsimp only [bind, Except.bind]
  by_cases hnil : dataValues.dropWhile (fun v => sourceTime v < startTime.getTime) = []
  · rw [if_pos hnil, countFrom]
    obtain ⟨⟨atEnd, hatEnd⟩, atStart, hatStart⟩ := exists_isPartial h.timed hne
      (startTime.toNumber.add processingInterval) startTime 0 none
    rw [hnil, List.takeWhile_nil] at hvals
    rw [hatStart]
    exact ⟨_, rfl, rfl, rfl, hvals, fun hvals => absurd rfl hvals⟩
  · rw [if_neg hnil, countFrom, countValues_eq (fun v hv => h.timed v (List.mem_of_mem_drop hv)) hend,
      drop_length_takeWhile]
    obtain ⟨⟨atEnd, hatEnd⟩, atStart, hatStart⟩ := exists_isPartial h.timed hne
      (startTime.toNumber.add processingInterval) startTime
      ((dataValues.dropWhile fun v => sourceTime v < startTime.getTime).takeWhile fun v =>
        (ofInt (sourceTime v)).lt (startTime.toNumber.add processingInterval)).length
      (some (dataValues.takeWhile fun v => sourceTime v < startTime.getTime).length)
    have htake := List.takeWhile_prefix (l := dataValues.dropWhile fun v =>
      sourceTime v < startTime.getTime) fun v =>
        (ofInt (sourceTime v)).lt (startTime.toNumber.add processingInterval)
    dsimp only
    rw [hatEnd]
    rw [hatStart]
    refine ⟨_, rfl, rfl, rfl, ?_, fun _ => ⟨_, rfl, ?_⟩⟩
    · rw [Interval.values]
      dsimp only
      rw [drop_length_takeWhile, ← List.prefix_iff_eq_take.mp htake, hvals]
    · rw [Interval.values]
      dsimp only
      rw [drop_length_takeWhile, ← List.prefix_iff_eq_take.mp htake]
      have := htake.length_le
      omega

/-! ### The count of an interval -/

/-- The number of good values. -/
def goodCount (dataValues : List (BuiltIn.DataValue U X)) : ℕ :=
  dataValues.countP fun v => v.statusCode.isGoodish

/-- **The result of an interval**: the number of its good values, unless the interval is bad or has
no data that is not bad. -/
def IsCountOf (startTime : Date) (count : ℕ) (result : BuiltIn.DataValue U X) : Prop :=
  result.sourceTimestamp = some startTime ∧
    (result.value = some (.scalar (.uint32 (BitVec.ofNat 32 count))) ∨
      result.value = none ∧
        (result.statusCode = .Bad ∨ result.statusCode = .BadNoData ∧ count = 0))

variable {interval : Interval U X}

section

variable (h : ∀ v ∈ interval.dataValues, v.sourceTimestamp ≠ none)
include h

lemma exists_getEffectiveEndTime :
    ∃ e, interval.getEffectiveEndTime = .ok e := by
  unfold Interval.getEffectiveEndTime
  cases hlast : interval.dataValues.reverse.find? fun value =>
      value.statusCode ≠ .BadNoData with
  | none => exact ⟨_, rfl⟩
  | some last =>
    have hmem := List.mem_of_find?_eq_some hlast
    rw [List.mem_reverse] at hmem
    dsimp only
    rw [getSourceTime_eq (h last hmem)]
    exact ⟨_, rfl⟩

lemma exists_regionDuration {i : ℕ}
    (hi : i < interval.dataValues.length) : ∃ d, interval.regionDuration i = .ok d := by
  obtain ⟨t1, ht1⟩ := exists_timeAt h hi
  obtain ⟨e, he⟩ := exists_getEffectiveEndTime h
  unfold Interval.regionDuration
  rw [ht1, he]
  split_ifs with hnext
  · obtain ⟨t2, ht2⟩ := exists_timeAt h hnext
    rw [ht2]
    exact ⟨_, rfl⟩
  · exact ⟨_, rfl⟩

end

lemma isGoodish_iff {status : StatusCode} (h : status.isGoodish = true) :
    status ≠ .BadNoData ∧ status.isBad = false ∧ isUncertain status = false := by
  obtain ⟨value⟩ := status
  simp only [StatusCode.isGoodish, decide_eq_true_eq] at h
  refine ⟨?_, ?_, ?_⟩
  · intro heq
    have := congrArg StatusCode.value heq
    simp only [StatusCode.BadNoData] at this
    omega
  · simp only [StatusCode.isBad, decide_eq_false_iff_not]
    omega
  · simp only [isUncertain, decide_eq_false_iff_not, not_and]
    intro hbit
    have := Nat.and_le_left (n := value) (m := 0x40000000)
    omega

section

variable (h : ∀ v ∈ interval.dataValues, v.sourceTimestamp ≠ none)
include h

lemma exists_next (s : CountState) {i : ℕ}
    (hi : i < interval.dataValues.length) (value : BuiltIn.DataValue U X) :
    ∃ s', s.next interval i value = .ok s' ∧
      s'.nbGood = s.nbGood + if value.statusCode.isGoodish then 1 else 0 := by
  obtain ⟨d, hd⟩ := exists_regionDuration h hi
  unfold CountState.next
  by_cases hgood : value.statusCode.isGoodish = true
  · obtain ⟨hnodata, hbad, huncertain⟩ := isGoodish_iff hgood
    rw [if_neg hnodata, hd, hbad, huncertain, hgood]
    exact ⟨_, rfl, rfl⟩
  · rw [if_neg hgood, hd]
    split_ifs <;> exact ⟨_, rfl, rfl⟩

/-- **The loop** counts the good values. -/
lemma exists_countLoop (s : CountState) (i : ℕ) (dataValues : List (BuiltIn.DataValue U X))
    (hi : dataValues ≠ [] → i + dataValues.length ≤ interval.dataValues.length) :
    ∃ s', countLoop interval s i dataValues = .ok s' ∧
      s'.nbGood = s.nbGood + goodCount dataValues ∧ (dataValues = [] → s' = s) := by
  induction dataValues generalizing s i with
  | nil => exact ⟨s, rfl, rfl, fun _ => rfl⟩
  | cons value dataValues ih =>
    have hlen := hi (List.cons_ne_nil _ _)
    rw [List.length_cons] at hlen
    obtain ⟨s1, hs1, hgood⟩ := exists_next h s (show i < interval.dataValues.length by omega)
      value
    obtain ⟨s2, hs2, hgoods, -⟩ := ih s1 (i + 1) (fun _ => by omega)
    refine ⟨s2, ?_, ?_, nofun⟩
    · rw [countLoop, hs1]
      exact hs2
    · rw [hgoods, hgood, goodCount, goodCount, List.countP_cons]
      omega

/-- **The good values of an interval are counted**, without an error. -/
theorem calculateCountValue_eq_ok (hindex : interval.values ≠ [] → ∃ i, interval.index = some i ∧
      i + interval.values.length ≤ interval.dataValues.length)
    (options : AggregateConfigurationOptions) :
    ∃ result, calculateCountValue interval options = .ok result ∧
      IsCountOf interval.startTime (goodCount interval.values) result := by
  have hi : interval.values ≠ [] →
      interval.index.getD 0 + interval.values.length ≤ interval.dataValues.length := by
    intro hne
    obtain ⟨i, hi, hle⟩ := hindex hne
    rwa [hi]
  obtain ⟨s, hs, hgood, hnil⟩ := exists_countLoop h { isPartial := interval.isPartial }
    (interval.index.getD 0) interval.values hi
  have hbad : ∃ b, isBadInterval interval options s = .ok b := by
    unfold isBadInterval
    by_cases hpos : 0 < s.nbBad
    · rw [if_pos hpos]
      have hne : interval.values ≠ [] := by
        intro hempty
        rw [hnil hempty] at hpos
        exact absurd hpos (lt_irrefl 0)
      have := List.length_pos_of_ne_nil hne
      have := hi hne
      obtain ⟨t, ht⟩ := exists_timeAt h
        (show interval.index.getD 0 < interval.dataValues.length by omega)
      obtain ⟨e, he⟩ := exists_getEffectiveEndTime h
      unfold Interval.duration
      rw [ht, he]
      exact ⟨_, rfl⟩
    · rw [if_neg hpos]
      exact ⟨false, rfl⟩
  obtain ⟨bad, hbad⟩ := hbad
  rw [Nat.zero_add] at hgood
  unfold calculateCountValue
  rw [hs]
  dsimp only [bind, Except.bind]
  rw [hbad]
  cases bad with
  | true => exact ⟨_, rfl, rfl, Or.inr ⟨rfl, Or.inl rfl⟩⟩
  | false =>
    by_cases hnone : s.nbUncertain = 0 ∧ s.nbGood = 0
    · rw [if_pos hnone]
      exact ⟨_, rfl, rfl, Or.inr ⟨rfl, Or.inr ⟨rfl, hgood ▸ hnone.2⟩⟩⟩
    · rw [if_neg hnone]
      refine ⟨_, rfl, rfl, Or.inl ?_⟩
      rw [← hgood]
      rfl

end

end NodeOpcua
