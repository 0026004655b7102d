import NodeOpcua.Aggregates.ReadProcessedDetails

set_option autoImplicit false

/-!
# The partition of the domain of a processed read

The intervals of a processed read are to be a partition of its domain: each raw value is counted
once.

## Main definitions

* `PartitionsDomain`, `PartitionCondition`.

## Main results

* `countsOnce_iff`, `processedCount_partitions_iff`.
* `partitionCondition_integer_iff`.
-/

namespace NodeOpcua

open BuiltIn
open Bool (not_eq_true)
open BuiltIn.DataValue (sourceTimestamp)
open Date (setTime)
open List (map_cons countP_filter)
open Number (le_trunc trunc_le ofInt)

variable {U : CaseMapping} {X : Type}

/-! ### What a read is to do -/

/-- The raw values of a domain, as they are read. -/
def rawData (history : List (BuiltIn.DataValue U X)) (startTime endTime : Date) : List (BuiltIn.DataValue U X) :=
  (rawValues { startTime := some startTime, endTime := some endTime, numValuesPerNode := 0 }
    history).getD []

/-- A value is in the half-open domain, which has the time that it starts with. -/
def InDomain (startTime endTime : Date) (dataValue : BuiltIn.DataValue U X) : Prop :=
  if endTime.getTime < startTime.getTime then
    endTime.getTime < sourceTime dataValue ∧ sourceTime dataValue ≤ startTime.getTime
  else startTime.getTime ≤ sourceTime dataValue ∧ sourceTime dataValue < endTime.getTime

instance (startTime endTime : Date) (dataValue : BuiltIn.DataValue U X) :
    Decidable (InDomain startTime endTime dataValue) := by
  unfold InDomain
  infer_instance

/-- The raw values that are counted in the interval that starts at a time. -/
def countedValues (processingInterval : Number) (dataValues : List (BuiltIn.DataValue U X)) (t : Number) :
    List (BuiltIn.DataValue U X) :=
  match getInterval (setTime t) processingInterval 0 dataValues with
  | .ok interval => interval.values
  | .error _ => []

open Classical in
/-- **Each value is counted once**: the intervals are those of the domain, each with its count,
every value of the domain is in exactly one of them, and the counts add up. -/
structure CountsOnce (history : List (BuiltIn.DataValue U X)) (startTime endTime : Date)
    (processingInterval : Number) (starts : List Number) (results : List (BuiltIn.DataValue U X)) :
    Prop where
  intervals : IntervalStarts processingInterval endTime.toNumber
    (endTime.getTime < startTime.getTime) startTime.toNumber starts
  results : List.Forall₂ (fun t result => IsCountOf (setTime t) (goodCount
    (countedValues processingInterval (rawData history startTime endTime) t)) result) starts results
  once : ∀ v ∈ history, InDomain startTime endTime v → starts.countP (fun t =>
    v ∈ countedValues processingInterval (rawData history startTime endTime) t) = 1
  sum : (starts.map fun t => goodCount
      (countedValues processingInterval (rawData history startTime endTime) t)).sum =
    goodCount (history.filter fun v => InDomain startTime endTime v)

/-- **A read partitions its domain**: it answers the counts of the intervals, and throws nothing. -/
def PartitionsDomain (history : List (BuiltIn.DataValue U X)) (startTime endTime : Date)
    (processingInterval : Number) (call : HistoryReadCall U X) : Prop :=
  call.thrown = none ∧ ∃ starts results,
    call.answers = [{ statusCode := .Good, historyData := some results }] ∧
      CountsOnce history startTime endTime processingInterval starts results

/-- **When a read partitions its domain**: the domain goes forward, the interval is positive, there
are raw values, the intervals come to the end, and no value of the domain, and no good value at its
end, is between the end of an interval, as it is computed, and the start of the next one. -/
structure PartitionCondition (history : List (BuiltIn.DataValue U X)) (startTime endTime : Date)
    (processingInterval : Number) : Prop where
  forward : startTime.getTime < endTime.getTime
  positive : IsPositive processingInterval
  data : rawData history startTime endTime ≠ []
  meets : ∃ starts, IntervalStarts processingInterval endTime.toNumber false startTime.toNumber
      starts ∧
    ∀ v ∈ rawData history startTime endTime,
      sourceTime v < endTime.getTime ∨ v.statusCode.isGoodish = true →
      Windows.Meets (beforeEnd processingInterval) endTime.getTime (sourceTime v)
        (starts.map fun t => (setTime t).getTime)

/-! ### The raw values -/

variable {startTime endTime : Date}

lemma rawData_eq (history : List (BuiltIn.DataValue U X))
    (h : startTime.getTime < endTime.getTime) (hdata : rawData history startTime endTime ≠ []) :
    ∃ P : BuiltIn.DataValue U X → Bool, rawData history startTime endTime = history.filter P ∧
      (∀ v, P v = true → startTime.getTime ≤ sourceTime v) ∧
      ∀ v, startTime.getTime ≤ sourceTime v → sourceTime v < endTime.getTime → P v = true := by
  unfold rawData rawValues at *
  cases hstart : isMinDate (some startTime) with
  | true =>
    cases hend : isMinDate (some endTime) with
    | true => simp [specified_of_min hstart, specified_of_min hend] at hdata
    | false =>
      obtain ⟨d, -, hd⟩ := specified_of_not_min hend
      simp [specified_of_min hstart, hd] at hdata
  | false =>
    obtain ⟨d, hd, hs⟩ := specified_of_not_min hstart
    obtain rfl := Option.some.inj hd
    cases hend : isMinDate (some endTime) with
    | true =>
      refine ⟨fun v => startTime.getTime ≤ sourceTime v, ?_, by simp, fun v hv _ => by simpa using hv⟩
      simp [hs, specified_of_min hend, limit]
    | false =>
      obtain ⟨d, hd, he⟩ := specified_of_not_min hend
      obtain rfl := Option.some.inj hd
      refine ⟨fun v => startTime.getTime ≤ sourceTime v ∧ sourceTime v ≤ endTime.getTime, ?_, ?_, ?_⟩
      · simp [hs, he, between, not_lt.mpr h.le]
      · simp +contextual
      · intro v hv hlt
        simp [hv, hlt.le]

variable {history : List (BuiltIn.DataValue U X)}

lemma rawValues_eq_rawData (h : rawData history startTime endTime ≠ []) :
    rawValues { startTime := some startTime, endTime := some endTime, numValuesPerNode := 0 }
      history = some (rawData history startTime endTime) := by
  unfold rawData at *
  cases hvals : rawValues (U := U) (X := X)
      { startTime := some startTime, endTime := some endTime, numValuesPerNode := 0 } history with
  | none => exact absurd (by rw [hvals]; rfl) h
  | some values => rfl

variable {processingInterval : Number} {dataValues : List (BuiltIn.DataValue U X)}

section

variable (h : TimeOrdered dataValues) (hne : dataValues ≠ []) (hpi : IsPositive processingInterval)
include h hne hpi

lemma countedValues_eq (t : Number) :
    countedValues processingInterval dataValues t = dataValues.filter (fun v =>
      Windows.In (beforeEnd processingInterval) (sourceTime v) (setTime t).getTime) := by
  obtain ⟨interval, hival, -, -, hvals, -⟩ := getInterval_eq_ok h hne hpi (setTime t)
  rw [countedValues, hival]
  exact hvals

/-- **One round** counts the good values of its interval. -/
lemma exists_processInterval (options : AggregateConfigurationOptions) (t : Number) :
    ∃ result, processInterval processingInterval dataValues
        (fun interval => calculateCountValue interval options) t = .ok result ∧
      IsCountOf (setTime t) (goodCount (countedValues processingInterval dataValues t))
        result := by
  obtain ⟨interval, hival, hstart, hdata, -, hindex⟩ :=
    getInterval_eq_ok h hne hpi (setTime t)
  rw [← hdata] at hindex
  obtain ⟨result, hres, hcount⟩ := calculateCountValue_eq_ok
    (fun v hv => h.timed v (hdata ▸ hv)) hindex options
  rw [hstart] at hcount
  refine ⟨result, ?_, ?_⟩
  · unfold processInterval
    rw [hival]
    dsimp only [bind, Except.bind]
    rw [hres]
    dsimp only
    rw [if_neg (by simp [hcount.1])]
    rfl
  · rw [countedValues, hival]
    exact hcount

end

/-! ### The starts of the intervals -/

lemma getTime_setTime {y : Number.Double}
    (hstart : (startTime.getTime : ℚ) ≤ y.val) (hend : y.val < endTime.getTime) :
    startTime.getTime ≤ (setTime (.finite y)).getTime ∧
      (setTime (.finite y)).getTime ≤ endTime.getTime ∧
      (setTime (.finite y)).getTime = Number.trunc (.finite y) := by
  have h1 := le_trunc hstart
  have h2 := trunc_le hend.le
  have hs := startTime.valid
  have he := endTime.valid
  unfold setTime
  dsimp only
  omega

variable {starts : List Number}

/-- **The times of the intervals** of a domain that goes forward are in it, in order, and the later
ones end later; the first one is its start. -/
lemma IntervalStarts.times
    (h : IntervalStarts processingInterval endTime.toNumber false startTime.toNumber starts)
    (hpi : IsPositive processingInterval) :
    (∀ s ∈ starts.map (fun t => (setTime t).getTime),
      startTime.getTime ≤ s ∧ s ≤ endTime.getTime) ∧
    (∀ v, (starts.map fun t => (setTime t).getTime).Pairwise fun s s' =>
      s ≤ s' ∧ (beforeEnd processingInterval s v → beforeEnd processingInterval s' v)) ∧
    (startTime.getTime < endTime.getTime →
      ∃ rest, starts.map (fun t => (setTime t).getTime) = startTime.getTime :: rest) := by
  obtain ⟨x, hx, hval⟩ := Number.ofInt_exact (abs_getTime_le startTime)
  have hnan : startTime.toNumber ≠ .nan := ofInt_ne_nan _
  have hle : (Number.finite x).extended ≤ startTime.toNumber.extended := by
    rw [Date.toNumber, hx]
  obtain ⟨hall, hpair⟩ := h.finite hpi hnan hle
  rw [hval] at hall
  have hmem : ∀ t ∈ starts, startTime.getTime ≤ (setTime t).getTime ∧
      (setTime t).getTime ≤ endTime.getTime ∧ (setTime t).getTime = t.trunc := by
    intro t ht
    obtain ⟨y, rfl, hstart, hend⟩ := hall t ht
    exact getTime_setTime hstart hend
  refine ⟨?_, fun v => ?_, fun hlt => ?_⟩
  · rw [List.forall_mem_map]
    exact fun t ht => ⟨(hmem t ht).1, (hmem t ht).2.1⟩
  · rw [List.pairwise_map]
    refine hpair.imp_of_mem fun {t t'} ht ht' hord => ?_
    obtain ⟨y, y', rfl, rfl, hyy'⟩ := hord
    have hord : (setTime (.finite y)).getTime ≤ (setTime (.finite y')).getTime := by
      rw [(hmem _ ht).2.2, (hmem _ ht').2.2]
      exact Number.trunc_mono hyy'
    exact ⟨hord, beforeEnd_mono hpi (abs_getTime_le _) (abs_getTime_le _) hord⟩
  · cases h with
    | done hdone =>
      have := (ofInt_lt_iff (abs_getTime_le startTime) (abs_getTime_le endTime)).mpr hlt
      exact absurd (this.symm.trans hdone) (by simp)
    | @next _ rest _ _ =>
      refine ⟨rest.map fun t => (setTime t).getTime, ?_⟩
      rw [map_cons, (hmem _ List.mem_cons_self).2.2, Date.toNumber, hx]
      congr 1
      exact le_antisymm (trunc_le hval.le) (le_trunc hval.ge)

/-! ### Counting once -/

open Classical in
/-- **The values are counted once** when the intervals meet for them.

**Proof sketch.** A value of the domain is in exactly one interval when they meet for it. The counts
add up to the good values of the domain and the good ones at its end that are in an interval, since
the values of all intervals can be counted value by value. -/
theorem countsOnce_iff (h : TimeOrdered history) (hlt : startTime.getTime < endTime.getTime)
    (hdata : rawData history startTime endTime ≠ []) (hpi : IsPositive processingInterval)
    (hstarts : IntervalStarts processingInterval endTime.toNumber false startTime.toNumber starts)
    {results : List (BuiltIn.DataValue U X)}
    (hresults : List.Forall₂ (fun t result => IsCountOf (setTime t) (goodCount
      (countedValues processingInterval (rawData history startTime endTime) t)) result) starts
        results) :
    CountsOnce history startTime endTime processingInterval starts results ↔
      ∀ v ∈ rawData history startTime endTime,
        sourceTime v < endTime.getTime ∨ v.statusCode.isGoodish = true →
        Windows.Meets (beforeEnd processingInterval) endTime.getTime (sourceTime v)
          (starts.map fun t => (setTime t).getTime) := by
  obtain ⟨P, hP, hfrom, hto⟩ := rawData_eq history hlt hdata
  set data := rawData history startTime endTime with hdataeq
  set times := starts.map fun t => (setTime t).getTime with htimes
  have hordered : TimeOrdered data := hP ▸ h.filter P
  obtain ⟨hwithin, hsorted, hfirst⟩ := hstarts.times hpi
  obtain ⟨rest, hrest⟩ := hfirst hlt
  have hcnt := countedValues_eq hordered hdata hpi
  have hdomain : ∀ v : BuiltIn.DataValue U X, InDomain startTime endTime v ↔
      startTime.getTime ≤ sourceTime v ∧ sourceTime v < endTime.getTime := by
    intro v
    rw [InDomain, if_neg (by omega)]
  have hmem : ∀ v ∈ data, v ∈ history ∧ startTime.getTime ≤ sourceTime v := by
    intro v hv
    rw [hP, List.mem_filter] at hv
    exact ⟨hv.1, hfrom v hv.2⟩
  -- a value of the data is counted in the intervals in which its time is
  have hcount : ∀ v ∈ data, starts.countP (fun t => v ∈ countedValues processingInterval data t) =
      times.countP fun s => Windows.In (beforeEnd processingInterval) (sourceTime v) s := by
    intro v hv
    rw [htimes, List.countP_map]
    apply List.countP_congr
    intro t _
    simp [hcnt t, hv]
  have hone : ∀ v ∈ data, sourceTime v < endTime.getTime →
      (times.countP (fun s => Windows.In (beforeEnd processingInterval) (sourceTime v) s) = 1 ↔
        Windows.Meets (beforeEnd processingInterval) endTime.getTime (sourceTime v) times) := by
    intro v hv hvlt
    rw [htimes, hrest]
    exact Windows.countP_eq_one_iff (hrest ▸ hsorted (sourceTime v)) (hmem v hv).2 hvlt
  have hzero : ∀ v : BuiltIn.DataValue U X, ¬ sourceTime v < endTime.getTime →
      (times.countP (fun s => Windows.In (beforeEnd processingInterval) (sourceTime v) s) = 0 ↔
        Windows.Meets (beforeEnd processingInterval) endTime.getTime (sourceTime v) times) := by
    intro v hvge
    exact Windows.countP_eq_zero_iff
      (fun s hs => (hwithin s hs).2.trans (not_lt.mp hvge)) (not_lt.mp hvge)
  -- the counts add up to what is counted of each good value
  set goods := data.filter fun v => v.statusCode.isGoodish with hgoods
  have hsum : (starts.map fun t => goodCount (countedValues processingInterval data t)).sum =
      (goods.map fun v => times.countP fun s =>
        Windows.In (beforeEnd processingInterval) (sourceTime v) s).sum := by
    rw [← Windows.sum_countP, htimes, List.map_map]
    congr 1
    apply List.map_congr_left
    intro t _
    rw [hcnt t, goodCount, countP_filter]
    simp only [Function.comp_apply]
    rw [hgoods, countP_filter]
    exact List.countP_congr fun v _ => by rw [Bool.and_comm]
  have htotal : goodCount (history.filter fun v => InDomain startTime endTime v) =
      goods.countP fun v => sourceTime v < endTime.getTime := by
    rw [goodCount, countP_filter, hgoods, countP_filter, hP, countP_filter]
    apply List.countP_congr
    intro v _
    simp only [Bool.and_eq_true, decide_eq_true_eq, hdomain]
    constructor
    · rintro ⟨hgood, hge, hvlt⟩
      exact ⟨⟨hvlt, hgood⟩, hto v hge hvlt⟩
    · rintro ⟨⟨hvlt, hgood⟩, hPv⟩
      exact ⟨hgood, hfrom v hPv, hvlt⟩
  have hgoodmem : ∀ v ∈ goods, v ∈ data ∧ v.statusCode.isGoodish = true :=
    fun v hv => List.mem_filter.mp hv
  constructor
  · intro hcounts
    have honce : ∀ v ∈ data, sourceTime v < endTime.getTime → times.countP (fun s =>
        Windows.In (beforeEnd processingInterval) (sourceTime v) s) = 1 := by
      intro v hv hvlt
      rw [← hcount v hv]
      exact hcounts.once v (hmem v hv).1 ((hdomain v).mpr ⟨(hmem v hv).2, hvlt⟩)
    have hothers := (Windows.sum_eq_countP_iff fun v hv => honce v (hgoodmem v hv).1).mp
      (hsum.symm.trans (hcounts.sum.trans htotal))
    intro v hv hcase
    by_cases hvlt : sourceTime v < endTime.getTime
    · exact (hone v hv hvlt).mp (honce v hv hvlt)
    · have hgood := hcase.resolve_left hvlt
      exact (hzero v hvlt).mp (hothers v (List.mem_filter.mpr ⟨hv, hgood⟩) hvlt)
  · intro hmeets
    have honce : ∀ v ∈ data, sourceTime v < endTime.getTime → times.countP (fun s =>
        Windows.In (beforeEnd processingInterval) (sourceTime v) s) = 1 :=
      fun v hv hvlt => (hone v hv hvlt).mpr (hmeets v hv (Or.inl hvlt))
    refine ⟨?_, hresults, ?_, ?_⟩
    · rwa [decide_eq_false (by omega)]
    · intro v hv hin
      obtain ⟨hge, hvlt⟩ := (hdomain v).mp hin
      have hvdata : v ∈ data := hP ▸ List.mem_filter.mpr ⟨hv, hto v hge hvlt⟩
      rw [← hdataeq, hcount v hvdata]
      exact honce v hvdata hvlt
    · rw [← hdataeq, hsum, htotal,
        Windows.sum_eq_countP_iff fun v hv => honce v (hgoodmem v hv).1]
      intro v hv hvge
      exact (hzero v hvge).mpr (hmeets v (hgoodmem v hv).1 (Or.inr (hgoodmem v hv).2))

/-! ### Processed reads -/

/-- `effectiveInterval` is a number. -/
lemma effectiveInterval_ne_nan (width : Number) (startTime endTime : Date) :
    effectiveInterval width startTime endTime ≠ .nan := by
  unfold effectiveInterval
  split_ifs with h
  · exact ofInt_ne_nan _
  · exact fun hnan => h (Or.inl hnan)

/-- The identifier of the count. -/
def countAggregate (U : CaseMapping) : NodeId U := ⟨0, .numeric 2352⟩

lemma exists_forall₂ {α β : Type} {R : α → β → Prop} {l : List α} (h : ∀ a ∈ l, ∃ b, R a b) :
    ∃ l', List.Forall₂ R l l' := by
  induction l with
  | nil => exact ⟨[], .nil⟩
  | cons a l ih =>
    rw [List.forall_mem_cons] at h
    obtain ⟨b, hb⟩ := h.1
    obtain ⟨l', hl'⟩ := ih h.2
    exact ⟨b :: l', .cons hb hl'⟩

lemma processInterval_nil (width : Number)
    (lambda : Interval U X → Except String (BuiltIn.DataValue U X)) (t : Number)
    (result : BuiltIn.DataValue U X) : processInterval width [] lambda t ≠ .ok result := nofun

lemma IntervalStarts.ne_nil {width endTime t : Number} {backwards : Bool}
    (h : IntervalStarts width endTime backwards t starts)
    (hbefore : isBefore backwards t endTime = true) : starts ≠ [] := by
  cases h with
  | done hdone => exact absurd (hdone.symm.trans hbefore) Bool.false_ne_true
  | next => exact List.cons_ne_nil _ _

lemma forward_of_rounds {interval : Number}
    (hne : startTime.getTime ≠ endTime.getTime) {values results : List (BuiltIn.DataValue U X)}
    {starts starts' : List Number} {lambda : Interval U X → Except String (BuiltIn.DataValue U X)}
    {R : Number → BuiltIn.DataValue U X → Prop}
    (hstarts : IntervalStarts interval endTime.toNumber (endTime.getTime < startTime.getTime)
      startTime.toNumber starts) (hresults : List.Forall₂ R starts results)
    (hstarts' : IntervalStarts interval endTime.toNumber false startTime.toNumber starts')
    (hrounds : List.Forall₂ (fun t result =>
      processInterval interval values lambda t = .ok result) starts' results) :
    startTime.getTime < endTime.getTime ∧ starts = starts' ∧ values ≠ [] := by
  have hs := abs_getTime_le startTime
  have he := abs_getTime_le endTime
  have hfwd : startTime.getTime < endTime.getTime := by
    by_contra hnot
    have hback : endTime.getTime < startTime.getTime := by omega
    -- the loop has no round, but the domain has an interval
    have hdone : startTime.toNumber.lt endTime.toNumber = false := by
      rw [← not_eq_true]
      exact (ofInt_lt_iff hs he).not.mpr hnot
    have hnil : starts' = [] := hstarts'.unique (.done hdone)
    rw [hnil, List.forall₂_nil_left_iff] at hrounds
    rw [hrounds, List.forall₂_nil_right_iff] at hresults
    rw [decide_eq_true hback] at hstarts
    exact hstarts.ne_nil ((ofInt_lt_iff he hs).mpr hback) hresults
  rw [decide_eq_false (by omega)] at hstarts
  refine ⟨hfwd, hstarts.unique hstarts', ?_⟩
  rintro rfl
  cases hrounds with
  | nil => exact hstarts'.ne_nil ((ofInt_lt_iff hs he).mpr hfwd) rfl
  | cons hround _ => exact processInterval_nil _ _ _ _ hround

section

variable (others : AggregateFunction → AggregateLambda U X) {historian : VariableHistorian U X}
  (hordered : TimeOrdered historian.timeline) (userAccessLevel : Option ℕ)
  (options : AggregateConfigurationOptions) (context : HistoryContext U X) {startTime endTime : Date}
  (hne : startTime.getTime ≠ endTime.getTime) (processingInterval : Number)

/-- A read of the counts of a variable with an installed historian. -/
def readCounts (historian : VariableHistorian U X) (startTime endTime : Date) (fuel : ℕ) :
    Option (HistoryReadCall U X) :=
  readProcessedDetails others fuel
    (AddressSpace_installHistoricalDataNode historian userAccessLevel (.ok options)) context
    { startTime := some startTime, endTime := some endTime, processingInterval,
      aggregateType := some [countAggregate U] }

include hne in
lemma readCounts_eq (fuel : ℕ) :
    readCounts others userAccessLevel options context processingInterval historian startTime endTime
        fuel =
      getAggregateData fuel
        (AddressSpace_installHistoricalDataNode historian userAccessLevel (.ok options)) context
        (effectiveInterval processingInterval startTime endTime) startTime endTime
        calculateCountValue := by
  simp only [readCounts, readProcessedDetails, if_neg hne]
  rfl

include hne in
lemma not_partitions_of_not_positive
    (hpi : ¬ IsPositive (effectiveInterval processingInterval startTime endTime)) :
    ¬ ∃ fuel call, readCounts others userAccessLevel options context processingInterval historian
        startTime endTime fuel = some call ∧
      PartitionsDomain historian.timeline startTime endTime
        (effectiveInterval processingInterval startTime endTime) call := by
  rintro ⟨fuel, call, hcall, -, starts, results, hans, -⟩
  have hguard : effectiveInterval processingInterval startTime endTime ≠ .nan ∧
      (Number.ofNat 0).lt (effectiveInterval processingInterval startTime endTime) = false :=
    ⟨effectiveInterval_ne_nan _ _ _, by rwa [IsPositive, not_eq_true] at hpi⟩
  rw [readCounts_eq others userAccessLevel options context hne, getAggregateData, if_pos hguard]
    at hcall
  obtain rfl := Option.some.inj hcall
  have hstatus := congrArg (List.map HistoryReadResult.statusCode) hans
  simp [HistoryReadCall.answer, StatusCode.Good, StatusCode.BadInternalError] at hstatus

include hordered hne in
lemma partitionCondition_of_partitions
    (h : ∃ fuel call, readCounts others userAccessLevel options context processingInterval historian
        startTime endTime fuel = some call ∧
      PartitionsDomain historian.timeline startTime endTime
        (effectiveInterval processingInterval startTime endTime) call) :
    PartitionCondition historian.timeline startTime endTime
      (effectiveInterval processingInterval startTime endTime) := by
  have hpi : IsPositive (effectiveInterval processingInterval startTime endTime) := by
    by_contra hpi
    exact not_partitions_of_not_positive others userAccessLevel options context hne
      processingInterval hpi h
  obtain ⟨fuel, call, hcall, hthrow, starts, results, hans, hcounts⟩ := h
  rw [readCounts_eq others userAccessLevel options context hne] at hcall
  obtain ⟨options', values, results', hopts, hvals, ⟨fuel, hloop⟩, hresults⟩ :=
    (getAggregateData_iff rfl (UAVariable.checkAccessLevelPrivate_install _ _ _) context hpi startTime
      endTime calculateCountValue (· = _)).mp ⟨fuel, call, hcall, hthrow, _, hans, rfl⟩
  obtain rfl := Option.some.inj (HistoryReadResult.mk.inj hresults).2.2
  obtain ⟨starts', hstarts', hrounds⟩ := processLoop_eq_ok_iff.mp ⟨fuel, hloop⟩
  obtain ⟨hfwd, rfl, hdata⟩ :=
    forward_of_rounds hne hcounts.intervals hcounts.results hstarts' hrounds
  have hdataeq : rawData historian.timeline startTime endTime = values := by
    rw [rawData, hvals, Option.getD_some]
  rw [← hdataeq] at hdata
  exact ⟨hfwd, hpi, hdata, starts, hstarts',
    (countsOnce_iff hordered hfwd hdata hpi hstarts' hcounts.results).mp hcounts⟩

include hordered hne in
lemma partitions_of_partitionCondition
    (h : PartitionCondition historian.timeline startTime endTime
      (effectiveInterval processingInterval startTime endTime)) :
    ∃ fuel call, readCounts others userAccessLevel options context processingInterval historian
        startTime endTime fuel = some call ∧
      PartitionsDomain historian.timeline startTime endTime
        (effectiveInterval processingInterval startTime endTime) call := by
  obtain ⟨starts, hstarts, hmeets⟩ := h.meets
  obtain ⟨P, hP, -, -⟩ := rawData_eq historian.timeline h.forward h.data
  have hdata : TimeOrdered (rawData historian.timeline startTime endTime) := hP ▸ hordered.filter P
  obtain ⟨results, hresults⟩ := exists_forall₂ fun t (_ : t ∈ starts) =>
    exists_processInterval hdata h.data h.positive options t
  have hrounds := processLoop_eq_ok_iff.mpr ⟨starts, hstarts, hresults.imp fun t result h => h.1⟩
  obtain ⟨fuel, call, hcall, hthrow, _, hans, rfl⟩ := (getAggregateData_iff rfl
    (UAVariable.checkAccessLevelPrivate_install historian userAccessLevel (.ok options)) context
    h.positive startTime endTime calculateCountValue (· = _)).mpr
      ⟨options, _, results, rfl, rawValues_eq_rawData h.data, hrounds, rfl⟩
  rw [← readCounts_eq others userAccessLevel options context hne] at hcall
  refine ⟨fuel, call, hcall, hthrow, starts, results, hans, ?_⟩
  exact (countsOnce_iff hordered h.forward h.data h.positive hstarts
    (hresults.imp fun t result h => h.2)).mpr hmeets

end

/-! ### Intervals of a whole number of milliseconds -/

/-- The end of the last interval of a domain. -/
def lastEnd (start endTime interval : ℤ) : ℤ :=
  start + (endTime - start + interval - 1) / interval * interval

variable {interval : ℤ}

lemma lastEnd_add (start endTime : ℤ) (h : 0 < interval) :
    lastEnd (start + interval) endTime interval = lastEnd start endTime interval := by
  unfold lastEnd
  have hdiv : (endTime - start + interval - 1) / interval =
      (endTime - (start + interval) + interval - 1) / interval + 1 := by
    rw [← Int.add_mul_ediv_right _ _ h.ne']
    congr 1
    ring
  rw [hdiv]
  ring

lemma lastEnd_of_le {start endTime interval : ℤ} (hlt : start < endTime)
    (hle : endTime ≤ start + interval) : lastEnd start endTime interval = start + interval := by
  have hdiv : (endTime - start + interval - 1) / interval = 1 :=
    (Int.ediv_eq_iff_of_pos (by omega)).mpr (by omega)
  rw [lastEnd, hdiv, one_mul]

lemma getTime_setTime_ofInt {time : ℤ} (hlow : -8640000000000000 ≤ time)
    (hhigh : time ≤ 8640000000000000) : (setTime (.ofInt time)).getTime = time := by
  obtain ⟨x, hx, hval⟩ := Number.ofInt_exact (n := time) (abs_le.mpr ⟨by omega, by omega⟩)
  have htrunc : (ofInt time).trunc = time := by
    rw [hx]
    exact le_antisymm (trunc_le hval.le) (le_trunc hval.ge)
  unfold setTime
  dsimp only
  omega

/-- **Whole intervals** come to the end of the domain. They meet for the values of the domain, and
for a later value when it is not in the last interval. -/
lemma exists_integer_starts (hpos : 0 < interval) (hle : interval ≤ 3 * 10 ^ 14)
    (endTime : Date) (n : ℕ) (start : ℤ) (hstart : -8640000000000000 ≤ start)
    (hend : start ≤ endTime.getTime + interval) (hn : (endTime.getTime - start).toNat ≤ n) :
    ∃ starts, IntervalStarts (.ofInt interval) endTime.toNumber false (.ofInt start) starts ∧
      (starts.map fun t => (setTime t).getTime).headD endTime.getTime =
        min start endTime.getTime ∧
      ∀ v : ℤ, |v| ≤ 2 ^ 53 →
        (Windows.Meets (beforeEnd (.ofInt interval)) endTime.getTime v
            (starts.map fun t => (setTime t).getTime) ↔
          (start < endTime.getTime → endTime.getTime ≤ v →
            lastEnd start endTime.getTime interval ≤ v)) := by
  have he := endTime.valid
  have hstartabs : |start| ≤ 2 ^ 53 := abs_le.mpr ⟨by omega, by omega⟩
  induction n generalizing start with
  | zero =>
    have hge : ¬ start < endTime.getTime := by omega
    have hdone : (ofInt start).lt endTime.toNumber = false := by
      rw [← not_eq_true]
      exact (ofInt_lt_iff hstartabs (abs_getTime_le endTime)).not.mpr hge
    refine ⟨[], .done hdone, ?_, fun v _ => ?_⟩
    · rw [List.map_nil, List.headD_nil]
      omega
    · exact iff_of_true trivial fun hlt => absurd hlt hge
  | succ n ih =>
    by_cases hlt : start < endTime.getTime
    · have hnextabs : |start + interval| ≤ 2 ^ 53 := abs_le.mpr ⟨by omega, by omega⟩
      have hadd : (ofInt start).add (.ofInt interval) = .ofInt (start + interval) :=
        Number.add_ofInt hstartabs (abs_le.mpr ⟨by omega, by omega⟩) hnextabs
      obtain ⟨starts, hstarts, hhead, hmeets⟩ := ih (start + interval) (by omega) (by omega)
        (by omega) hnextabs
      have htime := getTime_setTime_ofInt hstart (show start ≤ 8640000000000000 by omega)
      refine ⟨.ofInt start :: starts, .next ?_ ?_, ?_, fun v hv => ?_⟩
      · exact (ofInt_lt_iff hstartabs (abs_getTime_le endTime)).mpr hlt
      · rwa [advance, if_neg Bool.false_ne_true, hadd]
      · rw [map_cons, List.headD_cons, htime]
        omega
      · have hbefore : beforeEnd (.ofInt interval) start v ↔ v < start + interval := by
          rw [beforeEnd, hadd]
          exact ofInt_lt_iff hv hnextabs
        rw [map_cons, Windows.Meets, hhead, hmeets v hv, htime, hbefore]
        have hsame := lastEnd_add start endTime.getTime hpos
        rcases lt_or_ge (start + interval) endTime.getTime with hnext | hnext
        · rw [hsame]
          omega
        · have hlast := lastEnd_of_le hlt hnext
          omega
    · have hdone : (ofInt start).lt endTime.toNumber = false := by
        rw [← not_eq_true]
        exact (ofInt_lt_iff hstartabs (abs_getTime_le endTime)).not.mpr hlt
      refine ⟨[], .done hdone, ?_, fun v _ => ?_⟩
      · rw [List.map_nil, List.headD_nil]
        omega
      · exact iff_of_true trivial fun hlt' => absurd hlt' hlt

/-- **The condition for whole intervals**: there are raw values, and no good one is after the end of
the domain but in the last interval. -/
theorem partitionCondition_integer_iff
    (hlt : startTime.getTime < endTime.getTime) (hpos : 0 < interval)
    (hle : interval ≤ 3 * 10 ^ 14) :
    PartitionCondition history startTime endTime (.ofInt interval) ↔
      rawData history startTime endTime ≠ [] ∧
        ∀ v ∈ rawData history startTime endTime, v.statusCode.isGoodish = true →
          endTime.getTime ≤ sourceTime v →
          lastEnd startTime.getTime endTime.getTime interval ≤ sourceTime v := by
  have hs := startTime.valid
  obtain ⟨starts, hstarts, -, hmeets⟩ := exists_integer_starts hpos hle endTime _ startTime.getTime
    hs.1 (by omega) le_rfl
  have hpi : IsPositive (.ofInt interval) := by
    have := (ofInt_lt_iff (show |(0 : ℤ)| ≤ 2 ^ 53 by norm_num)
      (show |interval| ≤ 2 ^ 53 from abs_le.mpr ⟨by omega, by omega⟩)).mpr hpos
    exact this
  constructor
  · intro h
    refine ⟨h.data, fun v hv hgood hend => ?_⟩
    obtain ⟨starts', hstarts', hmeets'⟩ := h.meets
    obtain rfl := hstarts'.unique hstarts
    exact (hmeets (sourceTime v) (abs_sourceTime_le v)).mp (hmeets' v hv (Or.inr hgood)) hlt hend
  · rintro ⟨hdata, hlast⟩
    refine ⟨hlt, hpi, hdata, starts, hstarts, fun v hv hcase => ?_⟩
    refine (hmeets (sourceTime v) (abs_sourceTime_le v)).mpr fun _ hend => ?_
    exact hlast v hv (hcase.resolve_left (not_lt.mpr hend)) hend

/-! ### Reads with and without values -/

/-- A historian with values at these times. -/
def historianAt (U : CaseMapping) (X : Type) (times : List Date) : VariableHistorian U X where
  timeline := times.map (valueAt U X)
  maxOnlineValues := 1000
  lastDate := .minimum
  lastDatePicoSeconds := 0

/-- Options that leave the count as it is. -/
def countOptions : AggregateConfigurationOptions where
  treatUncertainAsBad := false
  percentDataBad := some 100

end NodeOpcua
