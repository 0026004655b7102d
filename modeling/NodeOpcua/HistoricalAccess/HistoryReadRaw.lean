import Mathlib.Data.List.Sort
import NodeOpcua.AddressSpace.ContinuationPointManager
import NodeOpcua.HistoricalAccess.VariableHistorian

set_option autoImplicit false

/-!
# Raw history reads

A raw read answers the kept values of a range of time. A long answer is read block by block, with
continuation points.

## Main definitions

* `HistoryReadCall`, `_historyReadRaw`, `readPages`, `rawValues`.

## Main results

* `historyReadRaw_eq`, `readPages_delivers`, `rawReads_complete`.
-/

namespace NodeOpcua

open BuiltIn
open BinaryStream (toUtf8String)

variable {U : CaseMapping} {X : Type}

/-! ### Reads -/

/-- `HistoryReadResult`, with the values of its `HistoryData`. -/
structure HistoryReadResult (U : CaseMapping) (X : Type) where
  statusCode : StatusCode
  continuationPoint : Option Buffer := none
  historyData : Option (List (BuiltIn.DataValue U X)) := none

/-- The session of a read, with its store of continuation points. -/
structure HistorySession (U : CaseMapping) (X : Type) where
  continuationPointManager : Option (ContinuationPointManager (BuiltIn.DataValue U X))

/-- The context of a read: what `checkPermission` answers for `ReadHistory`, the session, and the
counter of the continuation points of the process. -/
structure HistoryContext (U : CaseMapping) (X : Type) where
  checkPermission : Bool
  session : Option (HistorySession U X)
  counter : ℕ

/-- The context when the store and the counter have changed. -/
def HistoryContext.withManager (context : HistoryContext U X) (counter : ℕ)
    (manager : ContinuationPointManager (BuiltIn.DataValue U X)) : HistoryContext U X :=
  { context with session := some { continuationPointManager := some manager }, counter }

/-- **What a read does**: the results that its callback is given, in order, what it throws, and the
context that it leaves. -/
structure HistoryReadCall (U : CaseMapping) (X : Type) where
  answers : List (HistoryReadResult U X)
  thrown : Option String := none
  context : HistoryContext U X

/-- The callback is called once. -/
def HistoryReadCall.answer (context : HistoryContext U X) (result : HistoryReadResult U X) :
    HistoryReadCall U X := { answers := [result], context }

/-- The result of an answer of the store. -/
def HistoryReadResult.ofInfo (cnt : IContinuationPointInfo (BuiltIn.DataValue U X)) :
    HistoryReadResult U X where
  statusCode := cnt.statusCode
  continuationPoint := cnt.continuationPoint
  historyData := some (cnt.values.getD [])

/-- The callback of `_historyReadRawAsync`: the values are registered, and the first ones answered.
-/
def registerDataValues (context : HistoryContext U X)
    (manager : ContinuationPointManager (BuiltIn.DataValue U X)) (numValuesPerNode : ℕ)
    (dataValues : List (BuiltIn.DataValue U X)) (continuationData : ContinuationData) :
    HistoryReadCall U X :=
  let cnt := manager.registerHistoryReadRaw context.counter numValuesPerNode dataValues
    continuationData
  .answer (context.withManager cnt.2.1 cnt.2.2) (.ofInfo cnt.1)

/-- `_historyReadRaw`. -/
def _historyReadRaw (historian : VariableHistorian U X) (context : HistoryContext U X)
    (details : ReadRawModifiedDetails) (continuationData : ContinuationData) :
    HistoryReadCall U X :=
  match context.session with
  | none =>
    { answers := [], thrown := some "Internal Error: context.session not defined", context }
  | some session =>
    match session.continuationPointManager with
    | none =>
      { answers := [],
        thrown := some "Internal Error: context.session.continuationPointManager not defined"
        context }
    | some manager =>
      if continuationData.continuationPoint.isSome then
        let cnt := manager.getNextHistoryReadRaw details.numValuesPerNode continuationData
        .answer (context.withManager context.counter cnt.2) (.ofInfo cnt.1)
      else
        let register (details : ReadRawModifiedDetails) (maxNumberToExtract : ℕ)
            (isReversed reverseDataValue : Bool) :=
          registerDataValues context manager details.numValuesPerNode
            (historian.extractDataValues details maxNumberToExtract isReversed reverseDataValue)
            continuationData
        if isMinDate details.endTime then
          if isMinDate details.startTime then
            .answer context { statusCode := .BadHistoryOperationUnsupported }
          else register details details.numValuesPerNode false false
        else if isMinDate details.startTime then
          if details.numValuesPerNode = 0 then
            .answer context { statusCode := .BadHistoryOperationUnsupported }
          else register details details.numValuesPerNode true false
        else if (details.endTime.map Date.getTime).getD 0 <
            (details.startTime.map Date.getTime).getD 0 then
          register { details with startTime := details.endTime, endTime := details.startTime }
            0 false true
        else register details 0 false false

/-- A client reads, and goes on with the continuation point as long as there is one. -/
def readPages (historian : VariableHistorian U X) (details : ReadRawModifiedDetails) :
    ℕ → HistoryContext U X → ContinuationData → List (HistoryReadResult U X)
  | 0, _, _ => []
  | fuel + 1, context, continuationData =>
    let call := _historyReadRaw historian context details continuationData
    match call.answers with
    | [result] =>
      match result.continuationPoint with
      | none => [result]
      | some point =>
        result :: readPages historian details fuel call.context { continuationPoint := some point }
    | _ => []

/-! ### The values of a request -/

/-- A date that is specified. -/
def specified (date : Option Date) : Option Date := if isMinDate date then none else date

/-- The values between two times. -/
def between (first last : Date) (values : List (BuiltIn.DataValue U X)) : List (BuiltIn.DataValue U X) :=
  values.filter fun v => first.getTime ≤ sourceTime v ∧ sourceTime v ≤ last.getTime

/-- **The values that a request is to get** of those that are kept, in order: none without a start
and an end, the first ones from the start on, the last ones up to the end, backwards, or those
between the start and the end, backwards when the end comes first. -/
def rawValues (details : ReadRawModifiedDetails) (kept : List (BuiltIn.DataValue U X)) :
    Option (List (BuiltIn.DataValue U X)) :=
  match specified details.startTime, specified details.endTime with
  | none, none => none
  | some startTime, none =>
    some (limit details.numValuesPerNode
      (kept.filter fun v => startTime.getTime ≤ sourceTime v))
  | none, some endTime =>
    if details.numValuesPerNode = 0 then none
    else some ((kept.filter fun v => sourceTime v ≤ endTime.getTime).rtake
      details.numValuesPerNode).reverse
  | some startTime, some endTime =>
    if endTime.getTime < startTime.getTime then some (between endTime startTime kept).reverse
    else some (between startTime endTime kept)

/-- The time goes backwards. -/
def isBackwards (details : ReadRawModifiedDetails) : Bool :=
  match specified details.startTime, specified details.endTime with
  | none, some _ => true
  | some startTime, some endTime => endTime.getTime < startTime.getTime
  | _, _ => false

/-! ### The first read -/

lemma specified_of_min {date : Option Date} (h : isMinDate date = true) :
    specified date = none := if_pos h

lemma specified_of_not_min {date : Option Date} (h : isMinDate date = false) :
    ∃ d, date = some d ∧ specified date = some d := by
  cases date with
  | none => cases h
  | some d => exact ⟨d, rfl, by rw [specified, h]; rfl⟩

/-- **The range of a request**: after the start and before the end, when they are specified. -/
lemma inInTimeRange_eq_true_iff (details : ReadRawModifiedDetails) (value : BuiltIn.DataValue U X) :
    inInTimeRange details value = true ↔
      (∀ startTime, specified details.startTime = some startTime →
        startTime.getTime ≤ sourceTime value) ∧
      ∀ endTime, specified details.endTime = some endTime →
        sourceTime value ≤ endTime.getTime := by
  have hspecified : ∀ (date : Option Date) (P : Date → Prop) [DecidablePred P],
      (date.any fun d => !isMinDate (some d) && decide (P d)) = false ↔
        ∀ d, specified date = some d → ¬ P d := by
    intro date P _
    cases date with
    | none => simp [specified, isMinDate]
    | some d =>
      cases hmin : isMinDate (some d) <;> simp [specified, hmin]
  unfold inInTimeRange
  simp only [← not_lt]
  rw [← hspecified details.startTime fun d => sourceTime value < d.getTime,
    ← hspecified details.endTime fun d => d.getTime < sourceTime value]
  split_ifs with hbefore hafter
  · simp [hbefore]
  · simp [hafter]
  · simp only [Bool.not_eq_true] at hbefore hafter
    simp [hbefore, hafter]

variable {details : ReadRawModifiedDetails}

lemma filter_inInTimeRange {P : BuiltIn.DataValue U X → Bool}
    (values : List (BuiltIn.DataValue U X))
    (h : ∀ v, ((∀ startTime, specified details.startTime = some startTime →
        startTime.getTime ≤ sourceTime v) ∧
      ∀ endTime, specified details.endTime = some endTime → sourceTime v ≤ endTime.getTime) ↔
      P v = true) :
    values.filter (inInTimeRange details) = values.filter P := by
  apply List.filter_congr
  intro v _
  rw [Bool.eq_iff_iff, inInTimeRange_eq_true_iff]
  exact h v

lemma limit_reverse (n : ℕ) (hn : n ≠ 0) (l : List (BuiltIn.DataValue U X)) :
    limit n l.reverse = (l.rtake n).reverse := by
  rw [limit, if_neg hn, List.rtake_eq_reverse_take_reverse, List.reverse_reverse]

/-- **The first read** registers the values that the request is to get, or refuses it. -/
theorem historyReadRaw_eq (historian : VariableHistorian U X) (checkPermission : Bool)
    (manager : ContinuationPointManager (BuiltIn.DataValue U X)) (counter : ℕ)
    (details : ReadRawModifiedDetails) :
    let ctx : HistoryContext U X :=
      { checkPermission, session := some { continuationPointManager := some manager }, counter }
    _historyReadRaw historian ctx details { continuationPoint := none } =
      match rawValues details historian.timeline with
      | none => .answer ctx { statusCode := .BadHistoryOperationUnsupported }
      | some values => registerDataValues ctx manager details.numValuesPerNode values
          { continuationPoint := none } := by
  intro ctx
  unfold _historyReadRaw rawValues
  simp only [ctx, Option.isSome_none, Bool.false_eq_true, if_false,
    VariableHistorian.extractDataValues, filter_dequeue_eq, if_true]
  cases hend : isMinDate details.endTime with
  | true =>
    rw [specified_of_min hend]
    cases hstart : isMinDate details.startTime with
    | true => rw [specified_of_min hstart]; rfl
    | false =>
      obtain ⟨startTime, -, hs⟩ := specified_of_not_min hstart
      rw [hs]
      simp only [if_true, Bool.false_eq_true, if_false]
      congr 2
      apply filter_inInTimeRange
      simp [hs, specified_of_min hend]
  | false =>
    obtain ⟨endTime, he', he⟩ := specified_of_not_min hend
    rw [he]
    cases hstart : isMinDate details.startTime with
    | true =>
      rw [specified_of_min hstart]
      simp only [if_true, Bool.false_eq_true, if_false]
      by_cases hzero : details.numValuesPerNode = 0
      · rw [if_pos hzero, if_pos hzero]
      · rw [if_neg hzero, if_neg hzero, List.filter_reverse, limit_reverse _ hzero]
        congr 3
        apply filter_inInTimeRange
        simp [he, specified_of_min hstart]
    | false =>
      obtain ⟨startTime, hs', hs⟩ := specified_of_not_min hstart
      rw [hs]
      simp only [hs', he', Bool.false_eq_true, if_false, Option.map_some, Option.getD_some]
      by_cases hlt : endTime.getTime < startTime.getTime
      · rw [if_pos hlt, if_pos hlt, limit, if_pos rfl]
        congr 2
        apply filter_inInTimeRange
        simp [hs' ▸ hs, he' ▸ he]
      · rw [if_neg hlt, if_neg hlt, limit, if_pos rfl]
        congr 1
        apply filter_inInTimeRange
        simp [hs, he]

/-! ### The blocks -/

/-- **The blocks are the values**: all of them in order, at most as many at a time as were asked
for, with a continuation point until the last block. -/
structure Delivered (numValuesPerNode : ℕ) (values : List (BuiltIn.DataValue U X))
    (pages : List (HistoryReadResult U X)) : Prop where
  complete : pages.flatMap (fun page => page.historyData.getD []) = values
  bounded : numValuesPerNode ≠ 0 →
    ∀ page ∈ pages, (page.historyData.getD []).length ≤ numValuesPerNode
  status : ∀ page ∈ pages, page.statusCode = .Good ∨ page.statusCode = .GoodNoData ∧ values = []
  finished : ∃ first last, pages = first ++ [last] ∧ last.continuationPoint = none ∧
    ∀ page ∈ first, page.continuationPoint ≠ none

/-- The client is done after these reads. -/
def Reads (historian : VariableHistorian U X) (details : ReadRawModifiedDetails)
    (context : HistoryContext U X) (continuationData : ContinuationData)
    (pages : List (HistoryReadResult U X)) : Prop :=
  ∀ fuel, pages.length ≤ fuel →
    readPages historian details fuel context continuationData = pages

lemma Delivered.single {n : ℕ} {values : List (BuiltIn.DataValue U X)} {page : HistoryReadResult U X}
    (hvals : page.historyData.getD [] = values) (hlen : n ≠ 0 → values.length ≤ n)
    (hstatus : page.statusCode = .Good ∨ page.statusCode = .GoodNoData ∧ values = [])
    (hpoint : page.continuationPoint = none) : Delivered n values [page] where
  complete := by simpa using hvals
  bounded := by simpa [hvals] using hlen
  status := by simpa using hstatus
  finished := ⟨[], page, rfl, hpoint, by simp⟩

lemma Delivered.cons {n : ℕ} {block rest values : List (BuiltIn.DataValue U X)}
    {page : HistoryReadResult U X} {pages : List (HistoryReadResult U X)}
    (h : Delivered n rest pages) (hvals : block ++ rest = values)
    (hblock : page.historyData.getD [] = block) (hlen : block.length ≤ n) (hrest : rest ≠ [])
    (hstatus : page.statusCode = .Good) (hpoint : page.continuationPoint ≠ none) :
    Delivered n values (page :: pages) where
  complete := by rw [List.flatMap_cons, h.complete, hblock, hvals]
  bounded := by
    intro hn
    rw [List.forall_mem_cons, hblock]
    exact ⟨hlen, h.bounded hn⟩
  status := by
    rw [List.forall_mem_cons]
    refine ⟨Or.inl hstatus, fun p hp => Or.inl ?_⟩
    rcases h.status p hp with hgood | ⟨-, hempty⟩
    · exact hgood
    · exact absurd hempty hrest
  finished := by
    obtain ⟨first, last, rfl, hlast, hfirst⟩ := h.finished
    refine ⟨page :: first, last, rfl, hlast, ?_⟩
    rw [List.forall_mem_cons]
    exact ⟨hpoint, hfirst⟩

variable {context context' : HistoryContext U X} {continuationData : ContinuationData}
    {historian : VariableHistorian U X} {result : HistoryReadResult U X}

section

variable
  (hcall : _historyReadRaw historian context details continuationData = .answer context' result)
include hcall

lemma reads_last (hpoint : result.continuationPoint = none) :
    Reads historian details context continuationData [result] := by
  intro fuel hfuel
  cases fuel with
  | zero => simp at hfuel
  | succ fuel => simp [readPages, hcall, HistoryReadCall.answer, hpoint]

lemma reads_cons {point : Buffer} {pages : List (HistoryReadResult U X)}
    (hpoint : result.continuationPoint = some point)
    (h : Reads historian details context' { continuationPoint := some point } pages) :
    Reads historian details context continuationData (result :: pages) := by
  intro fuel hfuel
  cases fuel with
  | zero => simp at hfuel
  | succ fuel =>
    rw [List.length_cons] at hfuel
    have hpages := h fuel (by omega)
    simp [readPages, hcall, HistoryReadCall.answer, hpoint, hpages]

end

section

variable (historian : VariableHistorian U X)

lemma historyReadRaw_point (ctx : HistoryContext U X)
    (manager : ContinuationPointManager (BuiltIn.DataValue U X))
    (hsess : ctx.session = some { continuationPointManager := some manager })
    (details : ReadRawModifiedDetails) (point : Buffer) :
    _historyReadRaw historian ctx details { continuationPoint := some point } =
      let cnt := manager._getNext details.numValuesPerNode { continuationPoint := some point }
      .answer (ctx.withManager ctx.counter cnt.2) (.ofInfo cnt.1) := by
  unfold _historyReadRaw
  rw [hsess]
  rfl

/-- **The rest is read block by block**, by induction on its length. -/
lemma reads_rest (details : ReadRawModifiedDetails)
    (hn : 0 < details.numValuesPerNode) (point : Buffer) (maxElements : ℕ)
    (rest : List (BuiltIn.DataValue U X)) (hrest : rest ≠ []) (ctx : HistoryContext U X)
    (manager : ContinuationPointManager (BuiltIn.DataValue U X))
    (hsess : ctx.session = some { continuationPointManager := some manager })
    (hpoint : manager.get (toUtf8String point) = some { maxElements, values := rest }) :
    ∃ pages, Reads historian details ctx { continuationPoint := some point } pages ∧
      Delivered details.numValuesPerNode rest pages := by
  induction hlen : rest.length using Nat.strong_induction_on generalizing rest ctx manager with
  | _ length ih =>
    have hcall := historyReadRaw_point historian ctx manager hsess details point
    have hnext := ContinuationPointManager.getNext_block hpoint details.numValuesPerNode
    rw [if_neg hn.ne'] at hnext
    rw [hnext] at hcall
    by_cases hdrop : rest.drop details.numValuesPerNode = []
    · rw [if_pos hdrop] at hcall
      refine ⟨_, reads_last hcall rfl, Delivered.single ?_ ?_ (Or.inl rfl) rfl⟩
      · exact List.take_of_length_le (List.drop_eq_nil_iff.mp hdrop)
      · exact fun _ => List.drop_eq_nil_iff.mp hdrop
    · rw [if_neg hdrop] at hcall
      have hpos := List.length_pos_of_ne_nil hrest
      obtain ⟨pages, hreads, hdeliv⟩ := ih (rest.drop details.numValuesPerNode).length
        (by rw [List.length_drop]; omega) (rest.drop details.numValuesPerNode) hdrop
        (ctx.withManager ctx.counter (manager.set (toUtf8String point)
          { maxElements, values := rest.drop details.numValuesPerNode }))
        (manager.set (toUtf8String point)
          { maxElements, values := rest.drop details.numValuesPerNode })
        rfl (ContinuationPointManager.get_set_self _ _ _) rfl
      exact ⟨_, reads_cons hcall rfl hreads, hdeliv.cons (List.take_append_drop _ _) rfl
        (List.length_take_le _ _) hdrop rfl (Option.some_ne_none point)⟩

/-- **A client gets the values of its request.** A request that cannot be answered is refused. -/
theorem readPages_delivers (checkPermission : Bool)
    (manager : ContinuationPointManager (BuiltIn.DataValue U X)) (counter : ℕ)
    (details : ReadRawModifiedDetails) :
    let ctx : HistoryContext U X :=
      { checkPermission, session := some { continuationPointManager := some manager }, counter }
    match rawValues details historian.timeline with
    | none => Reads historian details ctx { continuationPoint := none }
        [{ statusCode := .BadHistoryOperationUnsupported }]
    | some values => ∃ pages, Reads historian details ctx { continuationPoint := none } pages ∧
        Delivered details.numValuesPerNode values pages := by
  intro ctx
  have hcall := historyReadRaw_eq historian checkPermission manager counter details
  cases hvals : rawValues details historian.timeline with
  | none =>
    rw [hvals] at hcall
    exact reads_last hcall rfl
  | some values =>
    rw [hvals] at hcall
    dsimp only [registerDataValues, ContinuationPointManager.registerHistoryReadRaw,
      ContinuationPointManager._register] at hcall ⊢
    by_cases hempty : 1 ≤ details.numValuesPerNode ∧ values.length = 0
    · rw [if_pos hempty] at hcall
      have hnil := List.length_eq_zero_iff.mp hempty.2
      refine ⟨_, reads_last hcall rfl, Delivered.single ?_ ?_ (Or.inr ⟨rfl, hnil⟩) rfl⟩
      · exact hnil.symm
      · exact fun _ => hempty.2.trans_le (Nat.zero_le _)
    rw [if_neg hempty] at hcall
    by_cases hzero : details.numValuesPerNode = 0
    · rw [if_pos hzero, if_pos le_rfl] at hcall
      exact ⟨_, reads_last hcall rfl, Delivered.single rfl (fun h => absurd hzero h) (Or.inl rfl) rfl⟩
    rw [if_neg hzero] at hcall
    by_cases hfits : values.length ≤ details.numValuesPerNode
    · rw [if_pos hfits] at hcall
      exact ⟨_, reads_last hcall rfl, Delivered.single rfl (fun _ => hfits) (Or.inl rfl) rfl⟩
    · rw [if_neg hfits] at hcall
      have hdrop : values.drop details.numValuesPerNode ≠ [] := by simpa using hfits
      set point := ContinuationPointManager.make_key (counter + 1)
      set rest := manager.set (toUtf8String point)
        { maxElements := details.numValuesPerNode, values := values.drop details.numValuesPerNode }
      obtain ⟨pages, hreads, hdeliv⟩ := reads_rest historian details (Nat.pos_of_ne_zero hzero)
        point details.numValuesPerNode _ hdrop (ctx.withManager (counter + 1) rest) rest rfl
        (ContinuationPointManager.get_set_self manager _ _)
      exact ⟨_, reads_cons hcall rfl hreads, hdeliv.cons (List.take_append_drop _ _) rfl
        (List.length_take_le _ _) hdrop rfl (Option.some_ne_none _)⟩

end

/-! ### The order -/

/-- **In order of time**, or in the opposite order when the time goes backwards. -/
def Ordered (details : ReadRawModifiedDetails) (values : List (BuiltIn.DataValue U X)) : Prop :=
  if isBackwards details then (values.map sourceTime).Pairwise (· ≥ ·)
  else (values.map sourceTime).Pairwise (· ≤ ·)

variable {part values : List (BuiltIn.DataValue U X)}

section

variable (hpart : part.Sublist values) (h : (values.map sourceTime).Pairwise (· ≤ ·))
include hpart h

lemma pairwise_sublist :
    (part.map sourceTime).Pairwise (· ≤ ·) :=
  h.sublist (hpart.map sourceTime)

lemma pairwise_reverse :
    (part.reverse.map sourceTime).Pairwise (· ≥ ·) := by
  rw [List.map_reverse, List.pairwise_reverse]
  exact pairwise_sublist hpart h

end

/-- **The values of a request are in order** when those that are kept are. -/
lemma ordered_rawValues {kept values : List (BuiltIn.DataValue U X)}
    (hvals : rawValues details kept = some values)
    (h : (kept.map sourceTime).Pairwise (· ≤ ·)) : Ordered details values := by
  unfold rawValues at hvals
  unfold Ordered isBackwards
  cases hstart : specified details.startTime with
  | none =>
    cases hend : specified details.endTime with
    | none => simp [hstart, hend] at hvals
    | some endTime =>
      simp only [hstart, hend] at hvals
      split_ifs at hvals
      obtain rfl := Option.some.inj hvals
      exact pairwise_reverse ((List.drop_sublist _ _).trans List.filter_sublist) h
  | some startTime =>
    cases hend : specified details.endTime with
    | none =>
      simp only [hstart, hend] at hvals
      obtain rfl := Option.some.inj hvals
      refine pairwise_sublist ?_ h
      rw [limit]
      split_ifs
      · exact List.filter_sublist
      · exact (List.take_sublist _ _).trans List.filter_sublist
    | some endTime =>
      simp only [hstart, hend, decide_eq_true_eq] at hvals ⊢
      by_cases hlt : endTime.getTime < startTime.getTime
      · rw [if_pos hlt] at hvals ⊢
        obtain rfl := Option.some.inj hvals
        exact pairwise_reverse List.filter_sublist h
      · rw [if_neg hlt] at hvals ⊢
        obtain rfl := Option.some.inj hvals
        exact pairwise_sublist List.filter_sublist h

/-- When the values were pushed in the order of time, so are they read. -/
def KeepsOrder (pushes : List (Date × BuiltIn.DataValue U X)) (details : ReadRawModifiedDetails)
    (values : List (BuiltIn.DataValue U X)) : Prop :=
  (pushes.map fun p => sourceTime p.2).Pairwise (· ≤ ·) → Ordered details values

/-- **Raw reads are complete.** After any values were pushed, a client that reads until there is no
continuation point gets exactly the kept values of its request, each once, in the order of their
arrival or backwards. -/
theorem rawReads_complete (maxOnlineValues : ℕ) (firstDate : Date)
    (pushes : List (Date × BuiltIn.DataValue U X)) (checkPermission : Bool)
    (manager : ContinuationPointManager (BuiltIn.DataValue U X)) (counter : ℕ)
    (details : ReadRawModifiedDetails) :
    let empty : VariableHistorian U X := .new maxOnlineValues firstDate
    let historian := empty.pushAll pushes
    let kept := (empty.recorded pushes).rtake empty.maxOnlineValues
    let context : HistoryContext U X :=
      { checkPermission, session := some { continuationPointManager := some manager }, counter }
    kept.map sourceTime = (pushes.map fun p => sourceTime p.2).rtake empty.maxOnlineValues ∧
    match rawValues details kept with
    | none => Reads historian details context { continuationPoint := none }
        [{ statusCode := .BadHistoryOperationUnsupported }]
    | some values => ∃ pages, Reads historian details context { continuationPoint := none } pages ∧
        Delivered details.numValuesPerNode values pages ∧ KeepsOrder pushes details values := by
  intro empty historian kept context
  have htimes : kept.map sourceTime =
      (pushes.map fun p => sourceTime p.2).rtake empty.maxOnlineValues := by
    rw [← VariableHistorian.map_sourceTime_recorded empty pushes, List.rtake, List.length_map,
      ← List.map_drop]
    rfl
  refine ⟨htimes, ?_⟩
  have htimeline : historian.timeline = kept :=
    VariableHistorian.timeline_push empty pushes (Nat.zero_le _)
  have hread := readPages_delivers historian checkPermission manager counter details
  rw [htimeline] at hread
  cases hvals : rawValues details kept with
  | none =>
    rw [hvals] at hread
    exact hread
  | some values =>
    rw [hvals] at hread
    obtain ⟨pages, hreads, hdeliv⟩ := hread
    refine ⟨pages, hreads, hdeliv, fun hpushes => ordered_rawValues hvals ?_⟩
    rw [htimes]
    exact hpushes.sublist (List.drop_sublist _ _)

/-! ### What a client may not expect -/

/-- A value at a time. -/
def valueAt (U : CaseMapping) (X : Type) (time : Date) : BuiltIn.DataValue U X :=
  .mk none .Good (some time) 0 none 0

section

variable (times : List Date) (details : ReadRawModifiedDetails)

/-- The times that a client gets, when values with these times were pushed. -/
def timesRead : List ℤ :=
  let historian : VariableHistorian .ascii Unit :=
    (VariableHistorian.new 0 .minimum).pushAll (times.map fun time => (time, valueAt _ _ time))
  let context : HistoryContext .ascii Unit :=
    { checkPermission := true, session := some { continuationPointManager := some {} }, counter := 0 }
  (readPages historian details (times.length + 1) context { continuationPoint := none }).flatMap
    fun page => (page.historyData.getD []).map sourceTime

/-- The times of the domain of a request, sorted, and limited only when there is no start. -/
def timesSorted : List ℤ :=
  let sorted (P : ℤ → Bool) := ((times.map Date.getTime).filter P).insertionSort (· ≤ ·)
  match specified details.startTime, specified details.endTime with
  | none, none => sorted fun _ => true
  | some startTime, none => sorted fun t => startTime.getTime ≤ t
  | none, some endTime =>
    let latest := (sorted fun t => t ≤ endTime.getTime).reverse
    if details.numValuesPerNode = 0 then latest else latest.take details.numValuesPerNode
  | some startTime, some endTime =>
    if endTime.getTime < startTime.getTime then
      (sorted fun t => endTime.getTime ≤ t ∧ t ≤ startTime.getTime).reverse
    else sorted fun t => startTime.getTime ≤ t ∧ t ≤ endTime.getTime

end

/-- **Raw reads are not sorted and not always complete**: values that arrive late are not read in the
order of time; without an end only the first values are read; without a start all the values up to
the end, or without both all of them, are refused. -/
theorem rawReads_not_sorted :
    let t1 : Date := ⟨1, by decide⟩
    let t2 : Date := ⟨2, by decide⟩
    let t3 : Date := ⟨3, by decide⟩
    timesRead [t2, t1] ⟨false, some t1, some t3, 0⟩ ≠
      timesSorted [t2, t1] ⟨false, some t1, some t3, 0⟩ ∧
    timesRead [t1, t2] ⟨false, some t1, none, 1⟩ ≠ timesSorted [t1, t2] ⟨false, some t1, none, 1⟩ ∧
    timesRead [t1, t2] ⟨false, none, some t3, 0⟩ ≠ timesSorted [t1, t2] ⟨false, none, some t3, 0⟩ ∧
    timesRead [t1, t2] ⟨false, none, none, 1⟩ ≠ timesSorted [t1, t2] ⟨false, none, none, 1⟩ := by
  decide +kernel

end NodeOpcua
