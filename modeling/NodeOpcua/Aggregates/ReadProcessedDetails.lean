import NodeOpcua.Aggregates.Interval

set_option autoImplicit false

/-!
# Processed reads

A processed read divides its domain into intervals, reads the raw values of the domain, and answers
one result for each interval.

## Main definitions

* `processLoop`.
* `readProcessedDetails`, `IntervalStarts`.

## Main results

* `processLoop_eq_ok_iff`.
* `IntervalStarts.finite`.

## Design

* The loop is not bounded: a small interval is lost when it is added to a large time. It is given a
  number of rounds, and has no result when they are not enough.
* The aggregates other than the count are functions of the interval and the configuration.
-/

namespace NodeOpcua

open BuiltIn
open Number (ofNat lt)

variable {U : CaseMapping} {X : Type}

/-! ### Aggregates -/

/-- The aggregates that are supported. -/
inductive AggregateFunction
  | Minimum
  | Maximum
  | Interpolative
  | Average
  | DurationGood
  | DurationBad
  | PercentBad
  | PercentGood
  | Count
  deriving DecidableEq, Repr

/-- The aggregate of an identifier, as `applyAggregate` tells them apart. -/
def AggregateFunction.ofNodeId (aggregateType : NodeId U) : Option AggregateFunction :=
  if aggregateType.namespaceIndex = 0 then
    match aggregateType.value with
    | .numeric value =>
      match value.toNat with
      | 2346 => some Minimum
      | 2347 => some Maximum
      | 2341 => some Interpolative
      | 2342 => some Average
      | 2360 => some DurationGood
      | 2361 => some DurationBad
      | 2372 => some PercentBad
      | 2371 => some PercentGood
      | 2352 => some Count
      | _ => none
    | _ => none
  else none

/-- How the result of an interval is computed. -/
abbrev AggregateLambda (U : CaseMapping) (X : Type) :=
  Interval U X → AggregateConfigurationOptions → Except String (BuiltIn.DataValue U X)

/-- The function of each aggregate. -/
def AggregateFunction.lambda (others : AggregateFunction → AggregateLambda U X) :
    AggregateFunction → AggregateLambda U X
  | .Count => calculateCountValue
  | f => others f

/-! ### The loop over the intervals -/

/-- `sourceTimestamp.setTime(t)`, for a time between two dates: it loses its fraction. -/
def Date.setTime (t : Number) : Date where
  getTime := max (-8640000000000000) (min 8640000000000000 t.trunc)
  valid := by omega

/-- One round of the loop of `processAggregateData`. -/
def processInterval (processingInterval : Number) (dataValues : List (BuiltIn.DataValue U X))
    (lambda : Interval U X → Except String (BuiltIn.DataValue U X)) (t : Number) :
    Except String (BuiltIn.DataValue U X) := do
  let interval ← getInterval (Date.setTime t) processingInterval 0 dataValues
  let dataValue ← lambda interval
  if dataValue.sourceTimestamp = none then throw "invalid DataValue"
  return dataValue

/-- **The loop** of `processAggregateData` from a time on, when the rounds are enough. -/
def processLoop (processingInterval endTime : Number) (dataValues : List (BuiltIn.DataValue U X))
    (lambda : Interval U X → Except String (BuiltIn.DataValue U X)) :
    ℕ → Number → Option (Except String (List (BuiltIn.DataValue U X)))
  | 0, _ => none
  | fuel + 1, t =>
    if t.lt endTime then
      match processInterval processingInterval dataValues lambda t with
      | .error e => some (.error e)
      | .ok dataValue =>
        (processLoop processingInterval endTime dataValues lambda fuel
          (t.add processingInterval)).map fun results => (dataValue :: ·) <$> results
    else some (.ok [])

/-- `processAggregateData`. -/
def processAggregateData (fuel : ℕ) (node : UAVariable U X) (processingInterval : Number)
    (startDate endDate : Date) (dataValues : List (BuiltIn.DataValue U X)) (lambda : AggregateLambda U X) :
    Option (Except String (List (BuiltIn.DataValue U X))) :=
  match node.getAggregateConfiguration with
  | .error e => some (.error e)
  | .ok aggregateConfiguration =>
    processLoop processingInterval endDate.toNumber dataValues
      (fun interval => lambda interval aggregateConfiguration) fuel startDate.toNumber

/-- The callback of the raw read, for one answer after the other: the lists of results that are
answered, and what is thrown. -/
def processAnswers
    (process : List (BuiltIn.DataValue U X) → Option (Except String (List (BuiltIn.DataValue U X)))) :
    List (HistoryReadResult U X) → Option (List (List (BuiltIn.DataValue U X)) × Option String)
  | [] => some ([], none)
  | result :: answers =>
    match result.historyData with
    | none => some ([], some "Cannot read properties of null (reading 'dataValues')")
    | some dataValues =>
      match process dataValues with
      | none => none
      | some (.error e) => some ([], some e)
      | some (.ok results) =>
        (processAnswers process answers).map fun q => (results :: q.1, q.2)

/-- The context of the raw read: a session without a user, which has all permissions. -/
def aggregateContext (counter : ℕ) : HistoryContext U X where
  checkPermission := true
  session := some { continuationPointManager := some {} }
  counter := counter

/-- `getAggregateData`, with `_buildResult` as its callback. -/
def getAggregateData (fuel : ℕ) (node : UAVariable U X) (context : HistoryContext U X)
    (processingInterval : Number) (startDate endDate : Date) (lambda : AggregateLambda U X) :
    Option (HistoryReadCall U X) :=
  if processingInterval ≠ .nan ∧ (ofNat 0).lt processingInterval = false then
    some (.answer context { statusCode := .BadInternalError })
  else do
    let call ← node.historyRead none (aggregateContext context.counter)
      (.readRawModified { startTime := some startDate, endTime := some endDate,
                          numValuesPerNode := 0 }) { continuationPoint := none }
    let (answered, thrown) ← processAnswers
      (fun dataValues => processAggregateData fuel node processingInterval startDate endDate
        dataValues lambda) call.answers
    return { answers := answered.map fun results =>
               { statusCode := .Good, historyData := some results }
             thrown := thrown.or call.thrown
             context := { context with counter := call.context.counter } }

/-- `processingInterval || endTime.getTime() - startTime.getTime()`. -/
def effectiveInterval (processingInterval : Number) (startTime endTime : Date) : Number :=
  if processingInterval = .nan ∨ processingInterval = .ofNat 0 then
    .ofInt (endTime.getTime - startTime.getTime)
  else processingInterval

/-- `readProcessedDetails`, with `applyAggregate`. -/
def readProcessedDetails (others : AggregateFunction → AggregateLambda U X) (fuel : ℕ) :
    UAVariable.ReadProcessed U X := fun node context details =>
  match details.startTime, details.endTime with
  | some startTime, some endTime =>
    if startTime.getTime = endTime.getTime then
      some (.answer context { statusCode := .BadInvalidArgument })
    else
      match details.aggregateType with
      | some [aggregateType] =>
        match AggregateFunction.ofNodeId aggregateType with
        | none => some (.answer context { statusCode := .BadAggregateNotSupported })
        | some f =>
          getAggregateData fuel node context
            (effectiveInterval details.processingInterval startTime endTime) startTime endTime
            (f.lambda others)
      | _ => some (.answer context { statusCode := .BadInternalError })
  | _, _ => some (.answer context { statusCode := .BadInvalidArgument })

/-! ### The intervals of a domain -/

/-- The time is before the end of the domain, in its direction. -/
def isBefore (backwards : Bool) (t endTime : Number) : Bool :=
  if backwards then endTime.lt t else t.lt endTime

/-- The start of the next interval, in the direction of the domain. -/
def advance (backwards : Bool) (t processingInterval : Number) : Number :=
  if backwards then t.sub processingInterval else t.add processingInterval

/-- **The intervals of a domain**, by their starts: from a time on, as long as the end of the domain
is not reached. -/
inductive IntervalStarts (processingInterval endTime : Number) (backwards : Bool) :
    Number → List Number → Prop
  | done {t : Number} (h : isBefore backwards t endTime = false) :
    IntervalStarts processingInterval endTime backwards t []
  | next {t : Number} {starts : List Number} (h : isBefore backwards t endTime = true)
    (rest : IntervalStarts processingInterval endTime backwards
      (advance backwards t processingInterval) starts) :
    IntervalStarts processingInterval endTime backwards t (t :: starts)

variable {processingInterval endTime t : Number}

lemma IntervalStarts.unique {backwards : Bool} {starts starts' : List Number}
    (h : IntervalStarts processingInterval endTime backwards t starts)
    (h' : IntervalStarts processingInterval endTime backwards t starts') : starts = starts' := by
  induction h generalizing starts' with
  | done hdone =>
    cases h' with
    | done => rfl
    | next hnext => exact absurd (hdone.symm.trans hnext) Bool.false_ne_true
  | next hnext _ ih =>
    cases h' with
    | done hdone => exact absurd (hdone.symm.trans hnext) Bool.false_ne_true
    | next _ hrest => rw [ih hrest]

/-- **The loop** ends with a result for each interval of the domain, when none of them throws. -/
theorem processLoop_eq_ok_iff
    {values : List (BuiltIn.DataValue U X)} {lambda : Interval U X → Except String (BuiltIn.DataValue U X)}
    {results : List (BuiltIn.DataValue U X)} :
    (∃ fuel, processLoop processingInterval endTime values lambda fuel t = some (.ok results)) ↔
      ∃ starts, IntervalStarts processingInterval endTime false t starts ∧
        List.Forall₂ (fun t res =>
          processInterval processingInterval values lambda t = .ok res) starts results := by
  constructor
  · rintro ⟨fuel, h⟩
    induction fuel generalizing t results with
    | zero => cases h
    | succ fuel ih =>
      rw [processLoop] at h
      by_cases hlt : t.lt endTime = true
      · rw [if_pos hlt] at h
        cases hround : processInterval processingInterval values lambda t with
        | error e =>
          rw [hround] at h
          cases h
        | ok value =>
          rw [hround, Option.map_eq_some_iff] at h
          obtain ⟨rest, hrest, hresults⟩ := h
          cases rest with
          | error e => cases hresults
          | ok rest =>
            obtain rfl := Except.ok.inj hresults
            obtain ⟨starts, hstarts, hall⟩ := ih hrest
            exact ⟨t :: starts, .next hlt hstarts, .cons hround hall⟩
      · rw [if_neg hlt] at h
        obtain rfl := Except.ok.inj (Option.some.inj h)
        exact ⟨[], .done (by simpa [isBefore] using hlt), .nil⟩
  · rintro ⟨starts, hstarts, hall⟩
    induction hstarts generalizing results with
    | done hdone =>
      cases hall
      refine ⟨1, ?_⟩
      rw [processLoop, if_neg (by simpa [isBefore] using hdone)]
    | next hnext _ ih =>
      cases hall with
      | cons hround hall =>
        obtain ⟨fuel, hfuel⟩ := ih hall
        rw [advance, if_neg Bool.false_ne_true] at hfuel
        refine ⟨fuel + 1, ?_⟩
        rw [processLoop, if_pos (by simpa [isBefore] using hnext), hround]
        rw [hfuel]
        rfl

/-- **The starts of the intervals** of a domain that goes forward are finite numbers before its end,
in their order. -/
lemma IntervalStarts.finite {width t : Number} {endTime : Date} {starts : List Number}
    (h : IntervalStarts width endTime.toNumber false t starts)
    (hpi : IsPositive width) {x : Number.Double} (hne : t ≠ .nan)
    (ht : (Number.finite x).extended ≤ t.extended) :
    (∀ s ∈ starts, ∃ y : Number.Double, s = .finite y ∧ x.val ≤ y.val ∧
      y.val < endTime.getTime) ∧
    starts.Pairwise fun s s' => ∃ y y' : Number.Double, s = .finite y ∧ s' = .finite y' ∧
      y.val ≤ y'.val := by
  induction h generalizing x with
  | done => exact ⟨fun s hs => absurd hs List.not_mem_nil, List.Pairwise.nil⟩
  | @next t starts hnext _ ih =>
    have hlt : t.lt endTime.toNumber = true := by simpa [isBefore] using hnext
    obtain ⟨e, he, heval⟩ := Number.ofInt_exact (abs_getTime_le endTime)
    rw [Date.toNumber, he] at hlt
    -- the number is between two finite ones
    obtain ⟨y, rfl⟩ : ∃ y, t = .finite y := by
      rcases t with _ | (_ | _) | y
      · exact absurd rfl hne
      · cases hlt
      · exact absurd ht (by simp [Number.extended])
      · exact ⟨y, rfl⟩
    have hxy := Number.extended_finite_le.mp ht
    have hyend : y.val < endTime.getTime := by
      rw [← heval]
      simpa [lt] using hlt
    have hadvance : (Number.finite y).extended ≤
          ((Number.finite y).add width).extended ∧
        (Number.finite y).add width ≠ .nan := by
      rcases width with _ | (_ | _) | p
      · simp [IsPositive] at hpi
      · exact ⟨le_top, Number.noConfusion⟩
      · simp [IsPositive, lt, ofNat] at hpi
      · refine ⟨?_, Number.ofRational_ne_nan _⟩
        have hp : 0 < p.val := by simpa [IsPositive, lt, ofNat] using hpi
        calc (Number.finite y).extended = (Number.ofRational y.val).extended := by
              rw [Number.ofRational_double]
          _ ≤ (Number.ofRational (y.val + p.val)).extended :=
              Number.extended_ofRational_mono (by linarith)
    obtain ⟨hall, hpair⟩ := ih hadvance.2 hadvance.1
    refine ⟨?_, List.pairwise_cons.mpr ⟨fun s' hs' => ?_, hpair⟩⟩
    · rw [List.forall_mem_cons]
      refine ⟨⟨y, rfl, hxy, hyend⟩, fun s hs => ?_⟩
      obtain ⟨z, rfl, hyz, hz⟩ := hall s hs
      exact ⟨z, rfl, hxy.trans hyz, hz⟩
    · obtain ⟨z, rfl, hyz, -⟩ := hall s' hs'
      exact ⟨y, z, rfl, rfl, hyz⟩

/-! ### The raw values of a processed read -/

lemma registerDataValues_zero (ctx : HistoryContext U X)
    (manager : ContinuationPointManager (BuiltIn.DataValue U X)) (values : List (BuiltIn.DataValue U X)) :
    registerDataValues ctx manager 0 values { continuationPoint := none } =
      .answer (ctx.withManager ctx.counter manager)
        { statusCode := .Good, historyData := some values } := by
  simp [registerDataValues, ContinuationPointManager.registerHistoryReadRaw,
    ContinuationPointManager._register, HistoryReadResult.ofInfo]

section

variable {node : UAVariable U X} {historian : VariableHistorian U X}
  (hhistorian : node.varHistorian = some historian)
  (hright : node.checkAccessLevelPrivate AccessLevelFlag.HistoryRead = true)

include hhistorian hright

lemma historyRead_aggregate (ctr : ℕ) (details : ReadRawModifiedDetails)
    (hmodified : details.isReadModified = false) (hlimit : details.numValuesPerNode = 0) :
    ∃ context, node.historyRead none (aggregateContext ctr) (.readRawModified details)
        { continuationPoint := none } =
      some (.answer context
        (match rawValues details historian.timeline with
        | none => { statusCode := .BadHistoryOperationUnsupported }
        | some values => { statusCode := .Good, historyData := some values })) := by
  have hcan : node.canUserReadHistory (aggregateContext ctr) = true := hright
  rw [UAVariable.historyRead_raw hhistorian none hcan hmodified]
  have hread := historyReadRaw_eq historian true {} ctr details
  rw [aggregateContext, hread]
  cases rawValues details historian.timeline with
  | none => exact ⟨_, rfl⟩
  | some values =>
    dsimp only
    rw [hlimit, registerDataValues_zero]
    exact ⟨_, rfl⟩

/-- **A read with a positive interval** answers once, with the results of the loop over its raw
values, when the variable has a configuration of its aggregates. -/
lemma getAggregateData_iff (ctx : HistoryContext U X) {width : Number}
    (hpi : IsPositive width) (startTime endTime : Date) (lambda : AggregateLambda U X)
    (P : HistoryReadResult U X → Prop) :
    (∃ fuel call, getAggregateData fuel node ctx width startTime endTime lambda =
        some call ∧ call.thrown = none ∧ ∃ result, call.answers = [result] ∧ P result) ↔
    ∃ opts values results, node.getAggregateConfiguration = .ok opts ∧
      rawValues { startTime := some startTime, endTime := some endTime, numValuesPerNode := 0 }
        historian.timeline = some values ∧
      (∃ fuel, processLoop width endTime.toNumber values
        (fun interval => lambda interval opts) fuel startTime.toNumber = some (.ok results)) ∧
      P { statusCode := .Good, historyData := some results } := by
  obtain ⟨ctx', hraw⟩ := historyRead_aggregate hhistorian hright ctx.counter
    { startTime := some startTime, endTime := some endTime, numValuesPerNode := 0 } rfl rfl
  have hguard : ¬ (width ≠ .nan ∧ (ofNat 0).lt width = false) := by
    rintro ⟨-, h⟩
    exact absurd (hpi.symm.trans h) (by simp)
  unfold getAggregateData
  simp only [if_neg hguard, hraw, Option.bind_eq_bind, Option.bind_some, HistoryReadCall.answer]
  cases rawValues { startTime := some startTime, endTime := some endTime, numValuesPerNode := 0 }
      historian.timeline with
  | none =>
    refine iff_of_false ?_ (by simp)
    rintro ⟨fuel, call, hcall, hthrow, -⟩
    obtain rfl := Option.some.inj hcall
    cases hthrow
  | some values =>
    simp only [Option.some.injEq, processAnswers, processAggregateData]
    cases node.getAggregateConfiguration with
    | error e =>
      refine iff_of_false ?_ (by simp)
      rintro ⟨fuel, call, hcall, hthrow, -⟩
      obtain rfl := Option.some.inj hcall
      cases hthrow
    | ok opts =>
      constructor
      · rintro ⟨fuel, call, hcall, hthrow, result, hans, hP⟩
        refine ⟨opts, values, ?_⟩
        cases hloop : processLoop width endTime.toNumber values
            (fun interval => lambda interval opts) fuel startTime.toNumber with
        | none => simp [hloop] at hcall
        | some out =>
          cases out with
          | error e =>
            simp only [hloop, Option.bind_some, Option.pure_def, Option.some.injEq] at hcall
            obtain rfl := hcall
            cases hthrow
          | ok results =>
            simp only [hloop, Option.map_some, Option.bind_some, Option.pure_def,
              Option.some.injEq] at hcall
            obtain rfl := hcall
            obtain rfl := (List.cons.inj hans).1
            exact ⟨results, rfl, rfl, ⟨fuel, hloop⟩, hP⟩
      · rintro ⟨opts', values', results, hopts, rfl, ⟨fuel, hloop⟩, hP⟩
        obtain rfl := Except.ok.inj hopts
        refine ⟨fuel, _, by simp only [hloop]; rfl, rfl, _, rfl, hP⟩

end

end NodeOpcua
