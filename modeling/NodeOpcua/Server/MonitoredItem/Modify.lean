import NodeOpcua.ContentFilter.Basic
import NodeOpcua.Server.MonitoredItem.QueueLaw

set_option autoImplicit false

/-!
# Modification of a monitored item

`modify` gives a monitored item other parameters. The filter is validated after they are applied, and a
filter that is not valid makes the call fail.

## Main definitions

* `RequestedFilter`, `validateFilter`, `FilteredItem.modify`, `FilteredItem.SameItem`.

## Main results

* `FilteredItem.modify_eq`.
* `FilteredItem.modifyAtomic_iff`.

## Design

`MonitoredItem` knows its filter by what the recording of values reads. Here the whole filter stands
beside it. The call is `none` when an assertion fails or a value is missing that the code dereferences.
-/

namespace NodeOpcua

/-! ### Filters -/

/-- A filter of a request, with select clauses in `C` and aggregate filters in `A`. The lists may be
null. -/
inductive RequestedFilter (U : CaseMapping) (X C A : Type)
  | DataChangeFilter (trigger : DataChangeTrigger) (deadbandType : ℕ) (deadbandValue : Number)
  | EventFilter (selectClauses : Option (List C)) (whereClause : Option (ContentFilter U X))
  | AggregateFilter (filter : A)

/-- The data type of a variable. -/
structure NodeDataType where
  namespaceIndex : ℕ
  /-- The identifier, when it is a number. -/
  value : Option ℕ
  /-- `isSubtypeOf("Number")`, of the data type when it is found. -/
  isSubtypeOfNumber : Option Bool

/-- `isNumberDataType`; `none` when the data type is not found. -/
def isNumberDataType (dataType : NodeDataType) : Option Bool :=
  match dataType.value with
  | some value =>
    if dataType.namespaceIndex = 0 && value < 22 then
      -- from SByte to Double
      some (2 ≤ value && value ≤ 11)
    else dataType.isSubtypeOfNumber
  | none => dataType.isSubtypeOfNumber

/-- **What the validation of a filter reads** of the node and of the capabilities of the server. -/
structure FilterValidationContext where
  dataType : NodeDataType
  hasEURange : Bool
  maxWhereClauseParameters : Option ℕ
  maxSelectClauseParameters : Option ℕ

section Validation

variable {U : CaseMapping} {X C A : Type}

/-- What the recording of values reads of a filter. -/
def RequestedFilter.monitoringFilter : RequestedFilter U X C A → MonitoringFilter
  | DataChangeFilter trigger deadbandType deadbandValue =>
    .dataChangeFilter
      { trigger
        deadbandType
        deadbandValue :=
          match deadbandValue with
          | .finite value => some value.val
          | _ => none }
  | EventFilter _ _ => .eventFilter
  | AggregateFilter _ => .aggregateFilter

/-- `__validateDataChangeFilter`. -/
def __validateDataChangeFilter (context : FilterValidationContext) (deadbandType : ℕ)
    (deadbandValue : Number) (node : MonitoredNode) : Option StatusCode :=
  match node with
  | .Variable _ _ =>
    let validated : Option StatusCode :=
      if deadbandType ≠ DeadbandType.None then
        (isNumberDataType context.dataType).map fun isNumber =>
          if isNumber then .Good else .BadFilterNotAllowed
      else some .Good
    validated.map fun statusCode =>
      if statusCode ≠ .Good then statusCode
      else if deadbandType = DeadbandType.Percent then
        if deadbandValue.lt (.ofInt 0) || (Number.ofInt 100).lt deadbandValue then
          .BadDeadbandFilterInvalid
        else if context.hasEURange then .Good
        else .BadMonitoredItemFilterUnsupported
      else .Good
  | _ => some .BadNodeIdInvalid

/-- `__countWhereClauseParameters`. -/
def __countWhereClauseParameters (whereClause : ContentFilter U X) : ℕ :=
  ((whereClause.elements.getD []).map fun element =>
    (element.elim 0 fun element => (element.filterOperands.getD []).length)).sum

/-- `__validateEventFilter`. -/
def __validateEventFilter (context : FilterValidationContext) (selectClauses : Option (List C))
    (whereClause : Option (ContentFilter U X)) : StatusCode :=
  if context.maxSelectClauseParameters.any fun maximum => maximum < (selectClauses.getD []).length then
    .BadEventFilterInvalid
  else
    match whereClause with
    | none => .Good
    | some whereClause =>
      if context.maxWhereClauseParameters.any fun maximum =>
          maximum < __countWhereClauseParameters whereClause then
        .BadEventFilterInvalid
      else validateContentFilter whereClause

/-- **`validateFilter`**; `none` when the validation throws. -/
def validateFilter (context : FilterValidationContext) (filter : RequestedFilter U X C A)
    (itemToMonitor : ItemToMonitor) : Option StatusCode :=
  match filter with
  | .EventFilter selectClauses whereClause =>
    if itemToMonitor.attributeId ≠ AttributeIds.EventNotifier then some .BadFilterNotAllowed
    else some (__validateEventFilter context selectClauses whereClause)
  | .DataChangeFilter _ deadbandType deadbandValue =>
    if itemToMonitor.attributeId ≠ AttributeIds.Value then some .BadFilterNotAllowed
    else __validateDataChangeFilter context deadbandType deadbandValue itemToMonitor.node
  | .AggregateFilter _ =>
    if itemToMonitor.attributeId ≠ AttributeIds.EventNotifier &&
        itemToMonitor.attributeId ≠ AttributeIds.Value then some .BadFilterNotAllowed
    else some .Good

end Validation

/-! ### The modification -/

/-- `MonitoringParameters` of a request, with the whole filter. -/
structure ModifyRequest (U : CaseMapping) (X C A : Type) where
  clientHandle : ℕ
  /-- None when it is not a finite number. -/
  samplingInterval : Option ℚ
  filter : Option (RequestedFilter U X C A)
  queueSize : ℕ
  discardOldest : Bool

/-- **A monitored item with its filter.** -/
structure FilteredItem (V : Type) (U : CaseMapping) (X C A : Type) where
  item : MonitoredItem V
  filter : Option (RequestedFilter U X C A)

variable {V : Type} {U : CaseMapping} {X C A : Type}

/-- The parameters, with what the recording of values reads of the filter. -/
def ModifyRequest.monitoringParameters (r : ModifyRequest U X C A) : MonitoringParameters where
  clientHandle := r.clientHandle
  samplingInterval := r.samplingInterval
  filter := r.filter.map RequestedFilter.monitoringFilter
  queueSize := r.queueSize
  discardOldest := r.discardOldest

/-- How an item is sampled: its timer, its listeners and its pending starts and reads. -/
structure SamplingRegistration where
  _samplingId : Option ℚ
  _is_sampling : Bool
  _on_opcua_event_received_callback : Bool
  _attribute_changed_callback : Bool
  _value_changed_callback : Bool
  _semantic_changed_callback : Bool
  _on_node_disposed_listener : Bool
  pendingStarts : List Bool
  pendingReads : List Bool

/-- How the item is sampled. -/
def MonitoredItem.samplingRegistration (s : MonitoredItem V) : SamplingRegistration where
  _samplingId := s._samplingId
  _is_sampling := s._is_sampling
  _on_opcua_event_received_callback := s._on_opcua_event_received_callback
  _attribute_changed_callback := s._attribute_changed_callback
  _value_changed_callback := s._value_changed_callback
  _semantic_changed_callback := s._semantic_changed_callback
  _on_node_disposed_listener := s._on_node_disposed_listener
  pendingStarts := s.pendingStarts
  pendingReads := s.pendingReads

namespace MonitoredItem

variable (s : MonitoredItem V)

/-- The sampling interval that a modification sets, when it is asked for this one. -/
def revisedSamplingInterval (samplingInterval : ℚ) : ℚ :=
  _adjust_sampling_interval
    (if s.samplingInterval ≠ 0 && samplingInterval = 0 then minimumSamplingInterval
    else samplingInterval)
    ((s.itemToMonitor.map fun item => item.node.minimumSamplingInterval).getD 0)

/-- The client handle that a modification sets, when it is asked for this one. -/
def revisedClientHandle (clientHandle : ℕ) : ℕ :=
  if clientHandle ≠ 0 && clientHandle ≠ 4294967295 then clientHandle else s.clientHandle

variable {s}

lemma adjust_queue_frame (s : MonitoredItem V) : ∃ queue overflow,
    s._adjust_queue_to_match_new_queue_size = { s with queue, overflow } := by
  unfold _adjust_queue_to_match_new_queue_size
  dsimp only
  split_ifs <;> exact ⟨_, _, rfl⟩

lemma set_parameters_fields {p : MonitoringParameters} {sampling : ℚ}
    (hival : p.samplingInterval = some sampling) (hnonneg : 0 ≤ sampling) :
    ∃ s', s._set_parameters p = .ok s' ∧
      s'.samplingInterval = _adjust_sampling_interval sampling
        ((s.itemToMonitor.map fun item => item.node.minimumSamplingInterval).getD 0) ∧
      s'.clientHandle = s.revisedClientHandle p.clientHandle ∧
      s'.itemToMonitor = s.itemToMonitor ∧
      s'.samplingRegistration = s.samplingRegistration := by
  unfold _set_parameters revisedClientHandle
  rw [hival]
  dsimp only
  rw [if_neg (not_lt.mpr hnonneg)]
  refine ⟨_, rfl, ?_⟩
  split_ifs <;> exact ⟨rfl, rfl, rfl, rfl⟩

/-- **What a modification does to the other parameters.** The item is sampled as it was when its sampling
interval does not change. -/
lemma modify_fields {p : MonitoringParameters} {sampling : ℚ}
    (hival : p.samplingInterval = some sampling) (hnonneg : 0 ≤ sampling) :
    ∃ s', s.modify p = .ok s' ∧
      s'.samplingInterval = s.revisedSamplingInterval sampling ∧
      s'.clientHandle = s.revisedClientHandle p.clientHandle ∧
      s'.itemToMonitor = s.itemToMonitor ∧
      (s'.samplingInterval = s.samplingInterval →
        s'.samplingRegistration = s.samplingRegistration) := by
  -- the fastest sampling interval stands for 0
  obtain ⟨s1, hs1, hrevised, hhandle, hitem, hreg⟩ : ∃ s1, s._set_parameters
      (if s.samplingInterval ≠ 0 && p.samplingInterval = some 0 then
        { p with samplingInterval := some minimumSamplingInterval } else p) = .ok s1 ∧
      s1.samplingInterval = s.revisedSamplingInterval sampling ∧
      s1.clientHandle = s.revisedClientHandle p.clientHandle ∧
      s1.itemToMonitor = s.itemToMonitor ∧
      s1.samplingRegistration = s.samplingRegistration := by
    unfold revisedSamplingInterval
    rw [hival]
    simp only [Option.some.injEq]
    split_ifs with hfastest
    · have hminimum : 0 ≤ minimumSamplingInterval := by
        unfold minimumSamplingInterval
        norm_num
      exact @set_parameters_fields V s
        { p with samplingInterval := some minimumSamplingInterval } _ rfl hminimum
    · exact set_parameters_fields hival hnonneg
  obtain ⟨queue, overflow, hadjusted⟩ := adjust_queue_frame s1
  have hmod : s.modify p = .ok (if s.samplingInterval ≠ s1.samplingInterval then
      { s1 with queue, overflow }._start_sampling false else { s1 with queue, overflow }) := by
    unfold modify
    dsimp only
    rw [hs1]
    show Except.ok (if s.samplingInterval ≠ s1._adjust_queue_to_match_new_queue_size.samplingInterval
      then s1._adjust_queue_to_match_new_queue_size._start_sampling false
      else s1._adjust_queue_to_match_new_queue_size) = _
    rw [hadjusted]
  refine ⟨_, hmod, ?_⟩
  by_cases hchanged : s.samplingInterval ≠ s1.samplingInterval
  · rw [if_pos hchanged]
    unfold _start_sampling
    split
    · exact ⟨hrevised, hhandle, hitem, fun heq => absurd heq.symm hchanged⟩
    · exact ⟨hrevised, hhandle, hitem, fun heq => absurd heq.symm hchanged⟩
  · rw [if_neg hchanged]
    exact ⟨hrevised, hhandle, hitem, fun _ => hreg⟩

lemma modify_error {p : MonitoringParameters}
    (hinval : ¬ ∃ sampling, p.samplingInterval = some sampling ∧
      0 ≤ sampling) : ∃ s', s.modify p = .error s' := by
  have herror : ∀ p' : MonitoringParameters, p'.samplingInterval = p.samplingInterval →
      ∃ s', s._set_parameters p' = .error s' := by
    intro p' hp'
    unfold _set_parameters
    rw [hp']
    cases hival : p.samplingInterval with
    | none => exact ⟨_, rfl⟩
    | some sampling =>
      have hneg : sampling < 0 :=
        not_le.mp fun hle => hinval ⟨_, hival, hle⟩
      dsimp only
      rw [if_pos hneg]
      exact ⟨_, rfl⟩
  have hnotZero : ¬ (s.samplingInterval ≠ 0 && p.samplingInterval = some 0) = true := by
    rw [Bool.and_eq_true, decide_eq_true_eq, decide_eq_true_eq]
    exact fun hand => hinval ⟨0, hand.2, le_refl 0⟩
  obtain ⟨s', hs'⟩ := herror p rfl
  refine ⟨s', ?_⟩
  unfold modify
  dsimp only
  rw [if_neg hnotZero, hs']
  rfl

/-- **The queue that is adjusted is the queue** when it fits, and has no overflow bit when there is room
for one notification only. -/
lemma survivors_eq_self_iff {queueSize : ℕ} (hpos : 0 < queueSize) (discard : Bool)
    (queue : List (QueueItem V)) :
    (if queueSize ≤ 1 then
      (QueueLaw.survivors queueSize discard queue).map QueueItem.unsetOverflowBit
    else QueueLaw.survivors queueSize discard queue) = queue ↔
      queue.length ≤ queueSize ∧
        (queueSize = 1 → ∀ notification ∈ queue, notification.unsetOverflowBit = notification) := by
  have hfits := length_survivors_le hpos discard queue
  have hkept : queue.length ≤ queueSize → QueueLaw.survivors queueSize discard queue = queue :=
    fun hle => if_pos hle
  by_cases hone : queueSize ≤ 1
  · rw [if_pos hone]
    constructor
    · intro h
      have hle : queue.length ≤ queueSize := by
        rw [← h, List.length_map]
        exact hfits
      rw [hkept hle] at h
      have hid : queue.map QueueItem.unsetOverflowBit = queue.map id := by
        rw [List.map_id]
        exact h
      exact ⟨hle, fun _ => List.map_inj_left.mp hid⟩
    · rintro ⟨hle, hunset⟩
      rw [hkept hle]
      exact (List.map_congr_left (hunset (by omega))).trans (List.map_id _)
  · rw [if_neg hone]
    constructor
    · intro h
      refine ⟨by rw [← h]; exact hfits, fun heq => absurd heq.le hone⟩
    · exact fun h => hkept h.1

end MonitoredItem

namespace FilteredItem

/-- **`modify`**: the item as it is then, and the status of the result. -/
def modify (s : FilteredItem V U X C A) (context : FilterValidationContext) (r : ModifyRequest U X C A) :
    Option (FilteredItem V U X C A × StatusCode) :=
  match s.item.modify r.monitoringParameters with
  | .error _ => none
  | .ok item =>
    let s : FilteredItem V U X C A := { item, filter := r.filter }
    match r.filter with
    | none => some (s, .Good)
    | some filter =>
      match item.itemToMonitor with
      | none => none
      | some itemToMonitor =>
        (validateFilter context filter itemToMonitor).map fun statusCodeFilter =>
          (s, statusCodeFilter)

/-- **The item is what it was.** -/
structure SameItem (s s' : FilteredItem V U X C A) : Prop where
  samplingInterval : s'.item.samplingInterval = s.item.samplingInterval
  queueSize : s'.item.queueSize = s.item.queueSize
  discardOldest : s'.item.discardOldest = s.item.discardOldest
  filter : s'.filter = s.filter
  clientHandle : s'.item.clientHandle = s.item.clientHandle
  queue : s'.item.queue = s.item.queue
  samplingRegistration : s'.item.samplingRegistration = s.item.samplingRegistration

/-- **A modification is atomic**: when it returns a status that is not Good, the item is what it was. -/
def ModifyAtomic (s : FilteredItem V U X C A) (context : FilterValidationContext)
    (r : ModifyRequest U X C A) : Prop :=
  ∀ s' statusCode, s.modify context r = some (s', statusCode) → statusCode ≠ .Good → SameItem s s'

/-- **The request changes nothing**: its parameters, when they are revised, are those of the item, and
the queue fits and has no overflow bit to take away. -/
structure ChangesNothing (s : FilteredItem V U X C A) (r : ModifyRequest U X C A) : Prop where
  samplingInterval : ∀ samplingInterval ∈ r.samplingInterval,
    s.item.revisedSamplingInterval samplingInterval = s.item.samplingInterval
  queueSize : _adjust_queue_size r.queueSize = s.item.queueSize
  discardOldest : r.discardOldest = s.item.discardOldest
  filter : r.filter = s.filter
  clientHandle : s.item.revisedClientHandle r.clientHandle = s.item.clientHandle
  queue_fits : s.item.queue.length ≤ s.item.queueSize
  queue_unmarked : s.item.queueSize = 1 →
    ∀ notification ∈ s.item.queue, notification.unsetOverflowBit = notification

/-- The request has valid parameters, and a filter that is refused. -/
def Refuses (s : FilteredItem V U X C A) (context : FilterValidationContext)
    (r : ModifyRequest U X C A) : Prop :=
  (∃ samplingInterval, r.samplingInterval = some samplingInterval ∧ 0 ≤ samplingInterval) ∧
    ∃ filter itemToMonitor statusCode, r.filter = some filter ∧
      s.item.itemToMonitor = some itemToMonitor ∧
      validateFilter context filter itemToMonitor = some statusCode ∧ statusCode ≠ .Good

variable {s : FilteredItem V U X C A} {context : FilterValidationContext} {r : ModifyRequest U X C A}

/-- **What a modification leaves**, with parameters that are valid. -/
lemma modify_eq {sampling : ℚ} (hival : r.samplingInterval = some sampling)
    (hnonneg : 0 ≤ sampling) :
    ∃ item, s.item.modify r.monitoringParameters = .ok item ∧
      item.itemToMonitor = s.item.itemToMonitor ∧
      (SameItem s { item, filter := r.filter } ↔ ChangesNothing s r) := by
  obtain ⟨item, hitem, hrevised, hhandle, hnode, hreg⟩ :=
    @MonitoredItem.modify_fields V s.item r.monitoringParameters _ hival hnonneg
  obtain ⟨item', hitem', hsize, hpol, -, hqueue⟩ :=
    @MonitoredItem.modify_queue V s.item r.monitoringParameters _ hival hnonneg
  obtain rfl := Except.ok.inj (hitem'.symm.trans hitem)
  refine ⟨item', hitem, hnode, ?_⟩
  have hkept := MonitoredItem.survivors_eq_self_iff
    (MonitoredItem._adjust_queue_size_pos r.queueSize) r.discardOldest s.item.queue
  constructor
  · intro h
    have hreqd : _adjust_queue_size r.queueSize = s.item.queueSize := hsize.symm.trans h.queueSize
    obtain ⟨hfits, hunmarked⟩ := hkept.mp (hqueue.symm.trans h.queue)
    rw [hreqd] at hfits hunmarked
    refine ⟨fun requested hreqd => ?_, hreqd, hpol.symm.trans h.discardOldest, h.filter,
      hhandle.symm.trans h.clientHandle, hfits, hunmarked⟩
    rw [hival] at hreqd
    obtain rfl := Option.some.inj hreqd
    exact hrevised.symm.trans h.samplingInterval
  · intro h
    have hsame := hrevised.trans (h.samplingInterval sampling hival)
    refine ⟨hsame, hsize.trans h.queueSize, hpol.trans h.discardOldest, h.filter,
      hhandle.trans h.clientHandle, ?_, hreg hsame⟩
    have hqueueKept : _ = s.item.queue := hkept.mpr (by
      rw [h.queueSize]
      exact ⟨h.queue_fits, h.queue_unmarked⟩)
    exact hqueue.trans hqueueKept

/-- **Where a modification is atomic**: when it is not refused, or changes nothing. -/
theorem modifyAtomic_iff (s : FilteredItem V U X C A) (context : FilterValidationContext)
    (r : ModifyRequest U X C A) :
    ModifyAtomic s context r ↔ (Refuses s context r → ChangesNothing s r) := by
  by_cases hvalid : ∃ samplingInterval, r.samplingInterval = some samplingInterval ∧
      0 ≤ samplingInterval
  · obtain ⟨samplingInterval, hival, hnonneg⟩ := hvalid
    obtain ⟨item, hitem, hnode, hsame⟩ := @modify_eq V U X C A s r _ hival hnonneg
    have hmod : s.modify context r =
        match r.filter with
        | none => some ({ item, filter := r.filter }, .Good)
        | some filter =>
          match item.itemToMonitor with
          | none => none
          | some itemToMonitor =>
            (validateFilter context filter itemToMonitor).map fun statusCodeFilter =>
              ({ item, filter := r.filter }, statusCodeFilter) := by
      unfold modify
      rw [hitem]
    constructor
    · rintro hatomic ⟨-, filter, itemToMonitor, statusCode, hfilt, hmon, hcode, hbad⟩
      rw [← hsame]
      refine hatomic _ statusCode ?_ hbad
      rw [hmod, hfilt, hnode, hmon]
      dsimp only
      rw [hcode]
      rfl
    · intro h s' statusCode hres hbad
      rw [hmod, hnode] at hres
      cases hfilt : r.filter with
      | none =>
        rw [hfilt] at hres
        cases hres
        exact absurd rfl hbad
      | some filter =>
        rw [hfilt] at hres
        cases hmon : s.item.itemToMonitor with
        | none =>
          rw [hmon] at hres
          cases hres
        | some itemToMonitor =>
          rw [hmon] at hres
          obtain ⟨code, hcode, heq⟩ := Option.map_eq_some_iff.mp hres
          obtain ⟨rfl, rfl⟩ := Prod.mk.inj heq
          rw [← hfilt]
          exact hsame.mpr (h ⟨⟨samplingInterval, hival, hnonneg⟩, filter, itemToMonitor, code,
            hfilt, hmon, hcode, hbad⟩)
  · obtain ⟨item, hitem⟩ := @MonitoredItem.modify_error V s.item r.monitoringParameters hvalid
    refine ⟨fun _ hrefuses => absurd hrefuses.1 hvalid, fun _ s' statusCode hres => ?_⟩
    unfold modify at hres
    rw [hitem] at hres
    cases hres

/-- A variable of strings, without limits. -/
def contextOfStrings : FilterValidationContext :=
  { dataType := { namespaceIndex := 0, value := some 12, isSubtypeOfNumber := some false }
    hasEURange := false
    maxWhereClauseParameters := none
    maxSelectClauseParameters := none }

/-- **A filter that is refused**: a deadband on a variable of strings. The item has taken the filter all
the same, with the other parameters, and one of its notifications is lost. -/
theorem modify_refused :
    ∃ item : MonitoredItem ℕ,
      MonitoredItem.new 1 ⟨AttributeIds.Value, .empty, .Variable 0 1⟩
        (MonitoredItem.smallQueue 2 true) = .ok item ∧
      let s : FilteredItem ℕ .ascii Unit Unit Unit :=
        { item := (Mealy.run MonitoredItem.queueStep item
            [MonitoredItem.valueComes 1 .Good, MonitoredItem.valueComes 2 .Good]).1
          filter := none }
      let r : ModifyRequest .ascii Unit Unit Unit :=
        { clientHandle := 1
          samplingInterval := some 0
          filter := some (.DataChangeFilter .StatusValue DeadbandType.Absolute (.ofInt 1))
          queueSize := 1
          discardOldest := true }
      ¬ ModifyAtomic s contextOfStrings r ∧
        ∃ s', s.modify contextOfStrings r = some (s', .BadFilterNotAllowed) ∧
          s.item.queue.length = 2 ∧ s'.item.queue.length = 1 ∧ s'.filter = r.filter := by
  refine ⟨_, rfl, ?_⟩
  intro s r
  have href : ∃ s', s.modify contextOfStrings r = some (s', .BadFilterNotAllowed) ∧
      s.item.queue.length = 2 ∧ s'.item.queue.length = 1 ∧ s'.filter = r.filter :=
    ⟨_, rfl, rfl, rfl, rfl⟩
  refine ⟨fun hatomic => ?_, href⟩
  obtain ⟨s', hs', hbefore, hafter, -⟩ := href
  have hsame := hatomic s' .BadFilterNotAllowed hs' (by decide)
  have hlen := congrArg List.length hsame.queue
  omega

end FilteredItem

end NodeOpcua
