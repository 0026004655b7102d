import Mathlib.Data.List.DropRight
import NodeOpcua.Variant.Basic

set_option autoImplicit false

/-!
# The historian of a variable

The values of a variable are kept in a timeline, in the order in which they arrive. When there are
too many the oldest ones are dropped.

## Main definitions

* `VariableHistorian`, `filter_dequeue`, `VariableHistorian.recorded`.

## Main results

* `VariableHistorian.timeline_push`, `filter_dequeue_eq`.

## Design

* The timeline is a linked list with a head that has no data; here it is the list of the data.
* The warning for dates that do not increase, and the variable that shows the start of the archive,
  are left out.
-/

namespace NodeOpcua

open BuiltIn

variable {U : CaseMapping} {X : Type}

/-! ### Ranges of time -/

/-- `isMinDate`: the date is not specified. -/
def isMinDate (date : Option Date) : Bool := decide (date = none ∨ date = some Date.minimum)

/-- A `ReadRawModifiedDetails`. -/
structure ReadRawModifiedDetails where
  isReadModified : Bool := false
  startTime : Option Date
  endTime : Option Date
  numValuesPerNode : ℕ
  deriving DecidableEq, Repr

/-- `dataValue.sourceTimestamp || 0`, in milliseconds. -/
def sourceTime (dataValue : BuiltIn.DataValue U X) : ℤ :=
  (dataValue.sourceTimestamp.map Date.getTime).getD 0

section

variable (historyReadDetails : ReadRawModifiedDetails) (dataValue : BuiltIn.DataValue U X)

/-- `inInTimeRange`. -/
def inInTimeRange :
    Bool :=
  if historyReadDetails.startTime.any fun startTime =>
      !isMinDate (some startTime) && sourceTime dataValue < startTime.getTime then false
  else if historyReadDetails.endTime.any fun endTime =>
      !isMinDate (some endTime) && endTime.getTime < sourceTime dataValue then false
  else true

/-- `inInTimeRange2`. -/
def inInTimeRange2 :
    Bool :=
  if historyReadDetails.endTime.any fun endTime =>
      !isMinDate (some endTime) && endTime.getTime < sourceTime dataValue then false
  else
    !historyReadDetails.startTime.any fun startTime =>
      !isMinDate (some startTime) && sourceTime dataValue < startTime.getTime

end

/-- The loop of `filter_dequeue`, with the items that are left and the result so far. A limit of 0
is none. -/
def filterItems (predicate : BuiltIn.DataValue U X → Bool) (onlyThisNumber : ℕ) :
    List (BuiltIn.DataValue U X) → List (BuiltIn.DataValue U X) → List (BuiltIn.DataValue U X)
  | [], r => r
  | c :: items, r =>
    let r := if predicate c then r ++ [c] else r
    if onlyThisNumber ≠ 0 ∧ r.length = onlyThisNumber then r
    else filterItems predicate onlyThisNumber items r

/-- `filter_dequeue`. -/
def filter_dequeue (q : List (BuiltIn.DataValue U X)) (historyReadDetails : ReadRawModifiedDetails)
    (onlyThisNumber : ℕ) (isReversed : Bool) : List (BuiltIn.DataValue U X) :=
  if isReversed then
    filterItems (inInTimeRange2 historyReadDetails) onlyThisNumber q.reverse []
  else filterItems (inInTimeRange historyReadDetails) onlyThisNumber q []

/-! ### The timeline -/

/-- **A historian**. -/
structure VariableHistorian (U : CaseMapping) (X : Type) where
  timeline : List (BuiltIn.DataValue U X)
  maxOnlineValues : ℕ
  lastDate : Date
  lastDatePicoSeconds : ℕ

namespace VariableHistorian

/-- The constructor. The first date is the beginning of 1600 in the time zone of the process. -/
def new (maxOnlineValues : ℕ) (firstDate : Date) : VariableHistorian U X where
  timeline := []
  maxOnlineValues := if maxOnlineValues = 0 then 1000 else maxOnlineValues
  lastDate := firstDate
  lastDatePicoSeconds := 0

/-- A value as it is kept: the picoseconds are incremented when the date does not increase. -/
def record (historian : VariableHistorian U X) (now : Date) (newDataValue : BuiltIn.DataValue U X) :
    BuiltIn.DataValue U X :=
  match newDataValue with
  | .mk value statusCode sourceTimestamp sourcePicoseconds serverTimestamp serverPicoseconds =>
    let sourceTime := sourceTimestamp.getD now
    let increasing := historian.lastDate.getTime < sourceTime.getTime ∨
      sourceTime.getTime = historian.lastDate.getTime ∧
        historian.lastDatePicoSeconds < sourcePicoseconds
    .mk value statusCode sourceTimestamp
      (if increasing then sourcePicoseconds else sourcePicoseconds + 1)
      serverTimestamp serverPicoseconds

/-- The oldest values are dropped while there are too many. -/
def shift (maxOnlineValues : ℕ) : List (BuiltIn.DataValue U X) → List (BuiltIn.DataValue U X)
  | [] => []
  | first :: timeline =>
    if maxOnlineValues < (first :: timeline).length then shift maxOnlineValues timeline
    else first :: timeline

section

variable (historian : VariableHistorian U X)

/-- `push`, at a time of the clock. -/
def push (now : Date) (newDataValue : BuiltIn.DataValue U X) :
    VariableHistorian U X :=
  let kept := historian.record now newDataValue
  { historian with
    timeline := shift historian.maxOnlineValues (historian.timeline ++ [kept])
    lastDate := newDataValue.sourceTimestamp.getD now
    lastDatePicoSeconds := kept.sourcePicoseconds }

/-- Values are pushed one after the other. -/
def pushAll (pushes : List (Date × BuiltIn.DataValue U X)) :
    VariableHistorian U X :=
  pushes.foldl (fun historian p => historian.push p.1 p.2) historian

/-- `extractDataValues`. -/
def extractDataValues
    (historyReadRawModifiedDetails : ReadRawModifiedDetails) (maxNumberToExtract : ℕ)
    (isReversed reverseDataValue : Bool) : List (BuiltIn.DataValue U X) :=
  let dataValues := filter_dequeue historian.timeline historyReadRawModifiedDetails
    maxNumberToExtract isReversed
  if reverseDataValue then dataValues.reverse else dataValues

end

/-! ### What is kept -/

/-- The values as they are kept when they are pushed one after the other. -/
def recorded (historian : VariableHistorian U X) :
    List (Date × BuiltIn.DataValue U X) → List (BuiltIn.DataValue U X)
  | [] => []
  | p :: pushes => historian.record p.1 p.2 :: (historian.push p.1 p.2).recorded pushes

section

variable (historian : VariableHistorian U X) (now : Date) (dataValue : BuiltIn.DataValue U X)

lemma sourceTimestamp_record :
    (historian.record now dataValue).sourceTimestamp = dataValue.sourceTimestamp := by
  cases dataValue
  rfl

@[simp] lemma sourceTime_record :
    sourceTime (historian.record now dataValue) = sourceTime dataValue := by
  rw [sourceTime, sourceTimestamp_record, sourceTime]

end

/-- **The values are kept with their times**. -/
lemma map_sourceTime_recorded (historian : VariableHistorian U X)
    (pushes : List (Date × BuiltIn.DataValue U X)) :
    (historian.recorded pushes).map sourceTime = pushes.map fun p => sourceTime p.2 := by
  induction pushes generalizing historian with
  | nil => rfl
  | cons p pushes ih =>
    rw [recorded, List.map_cons, sourceTime_record, ih, List.map_cons]

lemma shift_eq_rtake (maxOnlineValues : ℕ) (timeline : List (BuiltIn.DataValue U X)) :
    shift maxOnlineValues timeline = timeline.rtake maxOnlineValues := by
  induction timeline with
  | nil => simp [shift]
  | cons first timeline ih =>
    rw [shift, List.rtake]
    split_ifs with h
    · rw [ih, List.rtake]
      rw [List.length_cons] at h ⊢
      rw [show timeline.length + 1 - maxOnlineValues = timeline.length - maxOnlineValues + 1 by
        omega, List.drop_succ_cons]
    · rw [Nat.sub_eq_zero_of_le (by omega), List.drop_zero]

lemma rtake_append_rtake (l l' : List (BuiltIn.DataValue U X)) (n : ℕ) :
    (l.rtake n ++ l').rtake n = (l ++ l').rtake n := by
  unfold List.rtake
  rw [List.length_append, List.length_append, List.length_drop, List.drop_append, List.drop_append,
    List.drop_drop]
  by_cases h : l.length ≤ n
  · simp [Nat.sub_eq_zero_of_le h]
  · congr 2
    · omega
    · rw [List.length_drop]
      omega

/-- **The timeline has the last values that were pushed**, in the order of their arrival. -/
theorem timeline_push (historian : VariableHistorian U X) (pushes : List (Date × BuiltIn.DataValue U X))
    (h : historian.timeline.length ≤ historian.maxOnlineValues) :
    (historian.pushAll pushes).timeline =
      (historian.timeline ++ historian.recorded pushes).rtake historian.maxOnlineValues := by
  induction pushes generalizing historian with
  | nil =>
    rw [recorded, List.append_nil, List.rtake, Nat.sub_eq_zero_of_le h, List.drop_zero]
    rfl
  | cons p pushes ih =>
    have htimeline : (historian.push p.1 p.2).timeline =
        (historian.timeline ++ [historian.record p.1 p.2]).rtake historian.maxOnlineValues :=
      shift_eq_rtake _ _
    have hlen : (historian.push p.1 p.2).timeline.length ≤ historian.maxOnlineValues := by
      rw [htimeline, List.rtake, List.length_drop]
      omega
    calc (historian.pushAll (p :: pushes)).timeline
        = ((historian.push p.1 p.2).timeline ++ (historian.push p.1 p.2).recorded pushes).rtake
            historian.maxOnlineValues := ih (historian.push p.1 p.2) hlen
      _ = _ := by rw [htimeline, rtake_append_rtake, recorded, List.append_assoc,
            List.singleton_append]

end VariableHistorian

/-! ### The values of a range -/

/-- The limit of a list: 0 is none. -/
def limit (n : ℕ) (l : List (BuiltIn.DataValue U X)) : List (BuiltIn.DataValue U X) :=
  if n = 0 then l else l.take n

/-- **The loop** adds the values of the range, up to the number. -/
lemma filterItems_eq (predicate : BuiltIn.DataValue U X → Bool) (onlyThisNumber : ℕ)
    (items r : List (BuiltIn.DataValue U X)) (h : onlyThisNumber ≠ 0 → r.length < onlyThisNumber) :
    filterItems predicate onlyThisNumber items r =
      limit onlyThisNumber (r ++ items.filter predicate) := by
  induction items generalizing r with
  | nil =>
    rw [filterItems, limit, List.filter_nil, List.append_nil]
    split_ifs with hzero
    · rfl
    · rw [List.take_of_length_le (h hzero).le]
  | cons c items ih =>
    rw [filterItems, List.filter_cons]
    cases predicate c with
    | false =>
      simp only [Bool.false_eq_true, if_false]
      rw [if_neg (fun hfull => absurd hfull.2 (h hfull.1).ne), ih r h]
    | true =>
      simp only [if_true]
      by_cases hfull : onlyThisNumber ≠ 0 ∧ (r ++ [c]).length = onlyThisNumber
      · have hsplit : r ++ c :: items.filter predicate = (r ++ [c]) ++ items.filter predicate :=
          List.append_cons _ _ _
        rw [if_pos hfull, limit, if_neg hfull.1, hsplit, ← hfull.2, List.take_left]
      · rw [if_neg hfull, ih (r ++ [c]), List.append_assoc, List.singleton_append]
        intro hzero
        have hne : (r ++ [c]).length ≠ onlyThisNumber := fun heq => hfull ⟨hzero, heq⟩
        rw [List.length_append, List.length_singleton] at hne ⊢
        omega

lemma inInTimeRange2_eq (historyReadDetails : ReadRawModifiedDetails) :
    (inInTimeRange2 historyReadDetails : BuiltIn.DataValue U X → Bool) =
      inInTimeRange historyReadDetails := by
  funext dataValue
  unfold inInTimeRange2 inInTimeRange
  generalize (historyReadDetails.startTime.any fun startTime =>
    !isMinDate (some startTime) && sourceTime dataValue < startTime.getTime) = before
  generalize (historyReadDetails.endTime.any fun endTime =>
    !isMinDate (some endTime) && endTime.getTime < sourceTime dataValue) = after
  cases before <;> cases after <;> rfl

/-- **A range of the timeline** is a filter of it, up to the number of values. -/
theorem filter_dequeue_eq (q : List (BuiltIn.DataValue U X)) (historyReadDetails : ReadRawModifiedDetails)
    (onlyThisNumber : ℕ) (isReversed : Bool) :
    filter_dequeue q historyReadDetails onlyThisNumber isReversed =
      limit onlyThisNumber
        ((if isReversed then q.reverse else q).filter (inInTimeRange historyReadDetails)) := by
  unfold filter_dequeue
  cases isReversed with
  | true =>
    rw [if_pos rfl, inInTimeRange2_eq, filterItems_eq, List.nil_append, if_pos rfl]
    exact Nat.pos_of_ne_zero
  | false =>
    rw [if_neg Bool.false_ne_true, filterItems_eq, List.nil_append, if_neg Bool.false_ne_true]
    exact Nat.pos_of_ne_zero

end NodeOpcua
