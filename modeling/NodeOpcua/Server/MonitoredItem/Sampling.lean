import NodeOpcua.Library.Mealy
import NodeOpcua.NumericRange.Overlap
import NodeOpcua.Server.MonitoredItem.Basic

set_option autoImplicit false

/-!
# The sampling of a monitored item

A monitored item as a machine: requests, changes of the node, ticks of the timer and the callbacks
that wait in the event loop reach it in any order.

## Main definitions

* `MonitoredItemEvent`, `MonitoredItem.step`, `MonitoredItem.registrations`,
  `MonitoredItem.Admissible`.

## Main results

* `sampling_safe`.
* `sampling_disabled_enqueues`.
-/

namespace NodeOpcua

open Except (check Succeeds check_of_true succeeds_bind)
open List (not_mem_nil)
open Mealy (trace)
open NumericRange (overlap)
open Option (isNone_none)
open Prod (fst)

/-- What happens to a monitored item. -/
inductive MonitoredItemEvent (V : Type)
  | setMonitoringMode (monitoringMode : MonitoringMode)
  | modify (monitoringParameters : MonitoringParameters)
  | terminate
  /-- The node emits `value_changed`. -/
  | valueChanged (dataValue : DataValue V) (indexRange : Option NumericRange)
  /-- The node emits the event of the attribute that is monitored. -/
  | attributeChanged (dataValue : DataValue V)
  /-- The node emits `semantic_changed`, and has the value. -/
  | semanticChanged (dataValue : DataValue V)
  /-- The node emits `event`; there are fields when the event passes the filter. -/
  | opcuaEvent (eventFields : Option (List V))
  | nodeDisposed (sourceTimestamp : ℤ)
  /-- The semantic version of the node changes. -/
  | semanticVersion (semantic_version : ℕ)
  /-- The modes of the linked items change. -/
  | linkedModes (linkedModes : List MonitoringMode)
  /-- The common timer reaches the item. -/
  | timer
  | onSamplingTimer
  | sampled (dataValue : Option (DataValue V))
  /-- The first `setImmediate` of `_start_sampling` runs. -/
  | start (attributeValue : DataValue V)
  /-- The initial read at the index is completed. -/
  | initialValue (index : ℕ) (dataValue : Option (DataValue V))
  | trigger
  | triggered
  | extract
  | resendInitialValue (attributeValue : DataValue V)

/-- What a monitored item gives. -/
inductive MonitoredItemOutput (V : Type)
  | notifications (notifications : List (QueueItem V))
  | assertionFailed
  deriving DecidableEq

namespace MonitoredItem

variable {V : Type}

/-! ### The machine -/

/-- The node that is monitored. -/
def node (s : MonitoredItem V) : Option MonitoredNode := s.itemToMonitor.map ItemToMonitor.node

/-- The event reaches the item: what it is a callback of is registered or pending. -/
def delivers (s : MonitoredItem V) : MonitoredItemEvent V → Bool
  | .setMonitoringMode _ | .modify _ | .terminate | .extract | .resendInitialValue _ =>
    s.itemToMonitor.isSome
  | .valueChanged _ _ => s._value_changed_callback && s.node.any (·.semantic_version.isSome)
  | .attributeChanged _ => s._attribute_changed_callback
  | .semanticChanged _ => s._semantic_changed_callback && s.node.any (·.semantic_version.isSome)
  | .opcuaEvent _ => s._on_opcua_event_received_callback && s.node = some .Object
  | .nodeDisposed _ => s._on_node_disposed_listener
  | .semanticVersion _ => s.node.any (·.semantic_version.isSome)
  | .linkedModes _ => true
  | .timer => s._samplingId.isSome && s.monitoringMode ≠ .Disabled
  | .onSamplingTimer => s.pendingTimers ≠ 0
  | .sampled _ => s.pendingSamplings ≠ 0
  | .start _ => s.pendingStarts ≠ []
  | .initialValue index _ => index < s.pendingReads.length
  | .trigger => s.monitoringMode = .Sampling
  | .triggered => s.pendingTriggers ≠ 0

/-- The node with another semantic version. -/
def withSemanticVersion (s : MonitoredItem V) (semantic_version : ℕ) : MonitoredItem V :=
  { s with
      itemToMonitor := s.itemToMonitor.map fun item =>
        match item.node with
        | .Variable minimumSamplingInterval _ =>
          { item with node := .Variable minimumSamplingInterval semantic_version }
        | _ => item }

variable [VariantOperations V]

/-- What an event that reaches the item does. -/
def react (s : MonitoredItem V) :
    MonitoredItemEvent V → Except (MonitoredItem V) (MonitoredItem V)
  | .setMonitoringMode monitoringMode => (s.setMonitoringMode monitoringMode).map fst
  | .modify monitoringParameters => s.modify monitoringParameters
  | .terminate => s.removed
  | .valueChanged dataValue indexRange => s._on_value_changed dataValue indexRange
  | .attributeChanged dataValue => s._on_value_changed dataValue none
  | .semanticChanged dataValue => s._on_value_changed dataValue none
  | .opcuaEvent eventFields => s._on_opcua_event eventFields
  | .nodeDisposed sourceTimestamp => s._on_node_disposed sourceTimestamp
  | .semanticVersion semantic_version => .ok (s.withSemanticVersion semantic_version)
  | .linkedModes linkedModes => .ok { s with linkedModes }
  | .timer => .ok { s with pendingTimers := s.pendingTimers + 1 }
  | .onSamplingTimer => { s with pendingTimers := s.pendingTimers - 1 }._on_sampling_timer
  | .sampled dataValue => { s with pendingSamplings := s.pendingSamplings - 1 }.sampled dataValue
  | .start attributeValue =>
    { s with pendingStarts := s.pendingStarts.tail }.__start_sampling
      (s.pendingStarts.headD false) attributeValue
  | .initialValue index dataValue =>
    { s with pendingReads := s.pendingReads.eraseIdx index }.initialValueAcquired
      (s.pendingReads.getD index false) dataValue
  | .trigger => .ok s.trigger
  | .triggered => .ok { s with pendingTriggers := s.pendingTriggers - 1 }.triggered
  | .extract => .ok (s.extractMonitoredItemNotifications false).2
  | .resendInitialValue attributeValue => s.resendInitialValue attributeValue

/-- The notifications that an event hands over. -/
def handedOver (s : MonitoredItem V) : MonitoredItemEvent V → List (MonitoredItemOutput V)
  | .extract => [.notifications (s.extractMonitoredItemNotifications false).1]
  | _ => []

/-- **The machine**. -/
def step (s : MonitoredItem V) (event : MonitoredItemEvent V) :
    MonitoredItem V × List (MonitoredItemOutput V) :=
  if s.delivers event then
    match s.react event with
    | .ok s' => (s', s.handedOver event)
    | .error s' => (s', [.assertionFailed])
  else (s, [])

/-! ### What is promised -/

omit [VariantOperations V] in
/-- The timer and the listeners of the item. The listener of `semantic_changed` goes with that of
`value_changed`. -/
def registrations (s : MonitoredItem V) : ℕ :=
  s._samplingId.isSome.toNat + s._value_changed_callback.toNat +
    s._attribute_changed_callback.toNat + s._on_opcua_event_received_callback.toNat

omit [VariantOperations V] in
/-- **What is promised of a state**. -/
structure Safe (s : MonitoredItem V) : Prop where
  disabled : s.monitoringMode = .Disabled → s.queue = []
  terminated : s.itemToMonitor = none → s.queue = []
  registrations : s.registrations ≤ 1

end MonitoredItem

/-! ### Admissible steps -/

/-- The deadband of the filter is one that the tests know. -/
def DataChangeFilter.DeadbandValid (filter : DataChangeFilter) : Prop :=
  filter.deadbandType = DeadbandType.None ∨ filter.deadbandType = DeadbandType.Absolute ∨
    filter.deadbandType = DeadbandType.Percent ∧
      ∃ value, filter.deadbandValue = some value ∧ 0 ≤ value ∧ value ≤ 100

/-- The overflow bit can be set: the notification is an event, or its value has the status Good. -/
def QueueItem.IsGood {V : Type} : QueueItem V → Prop
  | .monitoredItemNotification _ value => value.statusCode = .Good
  | .eventFieldList _ _ => True

namespace MonitoredItem

variable {V : Type}

/-- The notification that gets the overflow bit when the given one is queued. -/
def overflowMarks (s : MonitoredItem V) (notification : QueueItem V) : Option (QueueItem V) :=
  if s.queueSize = 1 then none
  else if s.discardOldest then
    if s.queueSize < s.queue.length + 1 then (s.queue ++ [notification]).tail.head? else none
  else if s.queue.length < s.queueSize then none
  else some notification

/-- The queue takes the notification: if it overflows, the bit can be set. -/
def Takes (s : MonitoredItem V) (notification : QueueItem V) : Prop :=
  ∀ marked, s.overflowMarks notification = some marked → marked.IsGood

variable [VariantOperations V]

/-- The value can be queued: it is another object than the last value, and the queue takes it. -/
def Enqueueable (s : MonitoredItem V) (dataValue : DataValue V) : Prop :=
  (∀ oldDataValue, s.oldDataValue = some oldDataValue →
    sameObject dataValue.value oldDataValue.value = false) ∧
  s.Takes (.monitoredItemNotification s.clientHandle dataValue)

section

variable (s : MonitoredItem V) (dataValue : DataValue V) (skipChangeTest : Bool)
  (indexRange : Option NumericRange)

/-- The tests of `recordValue` are defined: the ranges can be compared when they are, and the
deadband is valid when it is tested. -/
def TestsDefined : Prop :=
  ∀ item, s.itemToMonitor = some item → item.node.semantic_version = s._semantic_version →
    (∀ range, indexRange = some range → range.Comparable item.indexRange) ∧
    (skipChangeTest = false →
      (∀ range, indexRange = some range →
        overlap range item.indexRange = some true) →
      sameDataValue (extractRange dataValue item.indexRange)
        (s.oldDataValue.getD badDataUnavailable) = false →
      ∀ filter oldDataValue, s.filter = some (.dataChangeFilter filter) →
        s.oldDataValue = some oldDataValue → filter.trigger = .StatusValue →
        statusCodeHasChanged (extractRange dataValue item.indexRange) oldDataValue = false →
        filter.DeadbandValid)

/-- **The value can be recorded**: its tests are defined, and if it passes them it can be queued
and the linked items have a mode. -/
def Recordable : Prop :=
  s.TestsDefined dataValue skipChangeTest indexRange ∧
  (∀ recorded,
    s.recording dataValue skipChangeTest indexRange = some (.semanticChanged recorded) →
    s.Enqueueable recorded) ∧
  (∀ recorded, s.recording dataValue skipChangeTest indexRange = some (.recorded recorded) →
    s.Enqueueable recorded ∧ ∀ mode ∈ s.linkedModes, mode ≠ .Invalid)

end

/-- **The steps that reach no defect**, of the events that reach the item. -/
def Admissible (s : MonitoredItem V) (event : MonitoredItemEvent V) : Prop :=
  s.delivers event →
    match event with
    | .modify monitoringParameters =>
      ∃ interval, monitoringParameters.samplingInterval = some interval ∧ 0 ≤ interval
    | .valueChanged dataValue indexRange => s.Recordable dataValue false indexRange
    | .attributeChanged dataValue | .semanticChanged dataValue => s.Recordable dataValue false none
    | .sampled dataValue =>
      s._samplingId.isSome → ∀ value, dataValue = some value → s.Recordable value false none
    | .onSamplingTimer => s._samplingId.isSome → s.monitoringMode ≠ .Invalid
    | .opcuaEvent eventFields =>
      s.filter = some .eventFilter ∧
        ∀ fields, eventFields = some fields → s.Takes (.eventFieldList s.clientHandle fields)
    | .nodeDisposed sourceTimestamp =>
      s.monitoringMode ≠ .Disabled ∧
        s.Recordable
          { value := VariantOperations.undefined
            statusCode := .BadNodeIdInvalid
            sourceTimestamp := some sourceTimestamp } false none
    | .start attributeValue =>
      ∀ item, s.itemToMonitor = some item → s.monitoringMode ≠ .Disabled ∧
        (s.pendingStarts.headD false → item.attributeId ≠ AttributeIds.EventNotifier →
          if item.attributeId = AttributeIds.Value then
            ∀ o, s.oldDataValue = some o → { s with oldDataValue := none }.Recordable o true none
          else s.Recordable attributeValue true none)
    | .initialValue index dataValue =>
      s.itemToMonitor.isSome → s.monitoringMode ≠ .Disabled ∧
        (s.pendingReads.getD index false → s._samplingId = none) ∧
        ∀ value, dataValue = some value → s.Recordable value true none
    | .resendInitialValue attributeValue =>
      s.monitoringMode ≠ .Disabled ∧
        (s.queue = [] →
          s.Takes (.monitoredItemNotification s.clientHandle
            (s.oldDataValue.getD attributeValue)))
    | _ => True

/-! ### Recording -/

variable {s : MonitoredItem V}

omit [VariantOperations V] in
lemma _enqueue_notification_eq {notif : QueueItem V} (h : s.Takes notif) :
    ∃ queue overflow, s._enqueue_notification notif =
      .ok { s with queue := queue, overflow := overflow } := by
  have hpos := s.queueSize_pos
  have hmark : ∀ marked : QueueItem V, marked.IsGood → ∃ m, marked._setOverflowBit = some m := by
    intro marked hgood
    cases marked with
    | monitoredItemNotification clientHandle value => exact ⟨_, if_pos hgood⟩
    | eventFieldList clientHandle eventFields => exact ⟨_, rfl⟩
  unfold Takes overflowMarks at h
  unfold _enqueue_notification
  split_ifs at h ⊢ with h1 hdiscard hlen hlen
  · exact ⟨_, _, rfl⟩
  · obtain ⟨front, queue, htail⟩ : ∃ front queue, (s.queue ++ [notif]).tail =
        front :: queue := by
      refine List.exists_cons_of_ne_nil fun hnil => ?_
      have hempty := congrArg List.length hnil
      rw [List.length_tail, List.length_append, List.length_singleton, List.length_nil] at hempty
      omega
    rw [htail] at h ⊢
    obtain ⟨m, hm⟩ := hmark front (h front rfl)
    simp only [hm]
    exact ⟨_, _, rfl⟩
  · exact ⟨_, _, rfl⟩
  · exact ⟨_, _, rfl⟩
  · obtain ⟨m, hm⟩ := hmark notif (h notif rfl)
    simp only [hm]
    exact ⟨_, _, rfl⟩

/-- The item after a value was recorded, or rejected. -/
def Recorded (s s' : MonitoredItem V) : Prop :=
  ∃ queue overflow oldDataValue semantic_version, s' = { s with
    queue := queue
    overflow := overflow
    oldDataValue := oldDataValue
    _semantic_version := semantic_version }

omit [VariantOperations V] in
lemma Recorded.refl (s : MonitoredItem V) : s.Recorded s := ⟨_, _, _, _, rfl⟩

variable {dataValue : DataValue V}

lemma _enqueue_value_succeeds
    (h : s.Enqueueable dataValue) : Succeeds (s._enqueue_value dataValue) s.Recorded := by
  obtain ⟨hobj, htakes⟩ := h
  have hcheck : (s.oldDataValue.all fun oldDataValue =>
      !sameObject dataValue.value oldDataValue.value) = true := by
    cases hold : s.oldDataValue with
    | none => rfl
    | some oldDataValue => simp [hobj oldDataValue hold]
  obtain ⟨queue, overflow, heq⟩ := _enqueue_notification_eq
    (s := { s with oldDataValue := some dataValue }) htakes
  refine ⟨_, ?_, queue, overflow, some dataValue, s._semantic_version, rfl⟩
  unfold _enqueue_value
  rw [check_of_true hcheck]
  exact heq

lemma valueHasChanged_isSome {filter : DataChangeFilter} (h : filter.DeadbandValid)
    (newDataValue oldDataValue : DataValue V) :
    ∃ b, valueHasChanged newDataValue oldDataValue filter.deadbandType filter.deadbandValue =
      some b := by
  unfold valueHasChanged
  obtain htype | htype | ⟨htype, value, hvalue, h0, h100⟩ := h
  · exact ⟨_, if_pos htype⟩
  · rw [htype]
    exact ⟨_, rfl⟩
  · rw [htype, hvalue]
    have hrange : (some value).any (fun value => 0 ≤ value && value ≤ 100) = true := by
      simp [h0, h100]
    simp only [hrange]
    exact ⟨_, rfl⟩

lemma timestampHasChanged_eq_true (t1 t2 : Option ℤ) : timestampHasChanged t1 t2 = true := by
  cases t1 <;> cases t2 <;> rfl

lemma apply_filter_isSome {newDataValue : DataValue V}
    (h : ∀ filter oldDataValue, s.filter = some (.dataChangeFilter filter) →
      s.oldDataValue = some oldDataValue → filter.trigger = .StatusValue →
      statusCodeHasChanged newDataValue oldDataValue = false → filter.DeadbandValid) :
    ∃ b, s.apply_filter newDataValue = some b := by
  unfold apply_filter
  cases hold : s.oldDataValue with
  | none => exact ⟨_, rfl⟩
  | some oldDataValue =>
    dsimp only
    split
    next filter hfilt =>
      unfold apply_dataChange_filter
      split
      next => exact ⟨_, rfl⟩
      next htrigger =>
        split_ifs with hstatus
        · exact ⟨_, rfl⟩
        · exact valueHasChanged_isSome
            (h filter oldDataValue hfilt hold htrigger (Bool.eq_false_iff.mpr hstatus)) _ _
      next =>
        rw [timestampHasChanged_eq_true]
        exact ⟨true, rfl⟩
    next => exact ⟨_, rfl⟩

variable {indexRange : Option NumericRange}

lemma recording_isSome {skipChangeTest : Bool}
    (h : s.TestsDefined dataValue skipChangeTest indexRange) :
    ∃ r, s.recording dataValue skipChangeTest indexRange = some r := by
  unfold recording
  cases hitem : s.itemToMonitor with
  | none => exact ⟨_, rfl⟩
  | some item =>
    dsimp only
    by_cases hsem : item.node.semantic_version ≠ s._semantic_version
    · exact ⟨_, if_pos hsem⟩
    rw [if_neg hsem]
    obtain ⟨hranges, hdeadband⟩ := h item hitem (not_not.mp hsem)
    obtain ⟨overlaps, hoverlaps⟩ : ∃ b, indexRangeOverlaps item indexRange = some b := by
      cases indexRange with
      | none => exact ⟨_, rfl⟩
      | some range => exact (hranges range rfl).overlap_isSome
    rw [hoverlaps]
    cases overlaps with
    | false => exact ⟨_, rfl⟩
    | true =>
      have hrange : ∀ range, indexRange = some range →
          overlap range item.indexRange = some true := by
        rintro range rfl
        exact hoverlaps
      obtain ⟨passes, hpasses⟩ : ∃ b, s.passesChangeTest
          (extractRange dataValue item.indexRange) skipChangeTest = some b := by
        unfold passesChangeTest
        split_ifs with hskip hsame
        · exact ⟨_, rfl⟩
        · exact ⟨_, rfl⟩
        · exact apply_filter_isSome fun filter oldDataValue hfilt hold htrigger hstatus =>
            hdeadband (Bool.eq_false_iff.mpr hskip) hrange (Bool.eq_false_iff.mpr hsame) filter
              oldDataValue hfilt hold htrigger hstatus
      rw [hpasses]
      cases passes with
      | false => exact ⟨_, rfl⟩
      | true =>
        split_ifs
        · exact ⟨_, rfl⟩
        · exact ⟨_, rfl⟩

lemma recordValue_succeeds {skipChangeTest : Bool}
    (h : s.Recordable dataValue skipChangeTest indexRange) :
    Succeeds (s.recordValue dataValue skipChangeTest indexRange) s.Recorded := by
  obtain ⟨htests, hsem, hrecd⟩ := h
  obtain ⟨r, hr⟩ := recording_isSome htests
  unfold recordValue
  rw [hr]
  cases r with
  | rejected => exact ⟨s, rfl, .refl s⟩
  | semanticChanged value =>
    obtain ⟨s', hs', queue, overflow, old, version, rfl⟩ := _enqueue_value_succeeds
      (s := { s with
        _semantic_version := s.itemToMonitor.bind fun item => item.node.semantic_version })
      (hsem value hr)
    exact ⟨_, hs', queue, overflow, old, version, rfl⟩
  | recorded value =>
    obtain ⟨henqueue, hlinked⟩ := hrecd value hr
    have hcheck : s.triggerLinkedItems = .ok s := by
      apply check_of_true
      simpa using hlinked
    rw [hcheck]
    exact _enqueue_value_succeeds henqueue

lemma recordValue_terminated (h : s.itemToMonitor = none)
    (value : DataValue V) (skipChangeTest : Bool) (indexRange : Option NumericRange) :
    s.recordValue value skipChangeTest indexRange = .ok s := by
  unfold recordValue recording
  rw [h]

lemma initialValueAcquired_terminated (h : s.itemToMonitor = none)
    (setsTimer : Bool) (dataValue : Option (DataValue V)) :
    s.initialValueAcquired setsTimer dataValue = .ok s := by
  have htimer : s._set_timer = .ok s := by
    unfold _set_timer
    rw [h]
    rfl
  unfold initialValueAcquired
  cases dataValue with
  | none => cases setsTimer with
    | true => exact htimer
    | false => rfl
  | some value =>
    dsimp only
    rw [recordValue_terminated h]
    cases setsTimer with
    | true => exact htimer
    | false => rfl

/-! ### The invariant -/

omit [VariantOperations V]

/-- The item has neither a timer nor a listener. -/
def Unregistered (s : MonitoredItem V) : Prop :=
  s._samplingId = none ∧ s._value_changed_callback = false ∧
    s._attribute_changed_callback = false ∧ s._on_opcua_event_received_callback = false

/-- The listeners are those for the attribute, and only the Value attribute is sampled. -/
def ListensFor (s : MonitoredItem V) (attributeId : ℕ) : Prop :=
  (attributeId ≠ AttributeIds.Value →
    s._samplingId = none ∧ s._value_changed_callback = false ∧ s.pendingReads = []) ∧
  (attributeId = AttributeIds.Value ∨ attributeId = AttributeIds.EventNotifier →
    s._attribute_changed_callback = false) ∧
  (attributeId ≠ AttributeIds.EventNotifier → s._on_opcua_event_received_callback = false)

/-- An item that is sampled at intervals, which does not listen to the changes of the value. -/
def AtIntervals (s : MonitoredItem V) : Prop :=
  s.samplingInterval ≠ 0 ∧ s._value_changed_callback = false

/-- **The invariant.** -/
structure SamplingInvariant (s : MonitoredItem V) : Prop where
  disabled : s.monitoringMode = .Disabled → s.queue = [] ∧ s.Unregistered
  terminated : s.itemToMonitor = none → s.queue = [] ∧ s.Unregistered
  listener : s._on_node_disposed_listener → s.itemToMonitor.isSome
  semantic : s._semantic_changed_callback = s._value_changed_callback
  timer : s._samplingId.isSome → s.AtIntervals
  reads : true ∈ s.pendingReads → s.itemToMonitor.isSome → s.AtIntervals
  listens : ∀ item, s.itemToMonitor = some item → s.ListensFor item.attributeId

lemma SamplingInvariant.safe (h : s.SamplingInvariant) : s.Safe where
  disabled hmode := (h.disabled hmode).1
  terminated hitem := (h.terminated hitem).1
  registrations := by
    unfold registrations
    cases hitem : s.itemToMonitor with
    | none =>
      obtain ⟨-, h1, h2, h3, h4⟩ := h.terminated hitem
      rw [h1, h2, h3, h4]
      decide
    | some item =>
      obtain ⟨hnotValue, hattribute, hnotEvent⟩ := h.listens item hitem
      by_cases hvalue : item.attributeId = AttributeIds.Value
      · have hevent := hnotEvent (by rw [hvalue]; decide)
        rw [hattribute (.inl hvalue), hevent]
        cases htimer : s._samplingId with
        | none => cases s._value_changed_callback <;> decide
        | some interval =>
          rw [(h.timer (by rw [htimer]; rfl)).2]
          exact Nat.le_refl 1
      · obtain ⟨h1, h2, -⟩ := hnotValue hvalue
        rw [h1, h2]
        by_cases hevent : item.attributeId = AttributeIds.EventNotifier
        · rw [hattribute (.inr hevent)]
          cases s._on_opcua_event_received_callback <;> decide
        · rw [hnotEvent hevent]
          cases s._attribute_changed_callback <;> decide

/-- The item without timer and listeners. -/
def stopped (s : MonitoredItem V) : MonitoredItem V :=
  { s with
      _samplingId := none
      _on_opcua_event_received_callback := false
      _attribute_changed_callback := false
      _value_changed_callback := false
      _semantic_changed_callback := false }

lemma minimum_le_of_ne_zero (h : s.samplingInterval ≠ 0) :
    minimumSamplingInterval ≤ s.samplingInterval :=
  s.samplingInterval_revised.resolve_left h

lemma _stop_sampling_eq (hitem : s.itemToMonitor.isSome)
    (hsem : s._semantic_changed_callback = s._value_changed_callback)
    (htimer : s._samplingId.isSome → s.AtIntervals) : s._stop_sampling = .ok s.stopped := by
  unfold _stop_sampling stopped
  rw [check_of_true hitem]
  cases hid : s._samplingId with
  | none =>
    simp only [check, _clear_timer, hid, isNone_none, Bool.or_true, if_true,
      Option.isSome_none, Bool.false_eq_true, if_false, bind, Except.bind]
  | some interval =>
    obtain ⟨hival, hvalue⟩ := htimer (by rw [hid]; rfl)
    have hpos : 0 < s.samplingInterval :=
      lt_of_lt_of_le (by unfold minimumSamplingInterval; norm_num) (minimum_le_of_ne_zero hival)
    simp only [check, _clear_timer, hid, hsem, hvalue, hpos, Bool.not_false, Bool.true_or,
      if_true, Option.isSome_some, decide_true, bind, Except.bind, pure, Except.pure]

lemma _set_timer_eq (hitem : s.itemToMonitor.isSome)
    (hival : s.samplingInterval ≠ 0) (hid : s._samplingId = none) :
    s._set_timer = .ok { s with _samplingId := some s.samplingInterval } := by
  have hle := minimum_le_of_ne_zero hival
  obtain ⟨item, hitem⟩ := Option.isSome_iff_exists.mp hitem
  simp only [_set_timer, hitem, check, hid, hle, Option.isNone_some, Bool.false_eq_true, if_false,
    decide_true, if_true, isNone_none, bind, Except.bind, pure, Except.pure]

/-! ### What each event preserves -/

variable {item : ItemToMonitor}

lemma SamplingInvariant.of_item (hmode : s.monitoringMode ≠ .Disabled)
    (hitem : s.itemToMonitor = some item)
    (listener : s._on_node_disposed_listener → s.itemToMonitor.isSome)
    (semantic : s._semantic_changed_callback = s._value_changed_callback)
    (timer : s._samplingId.isSome → s.AtIntervals)
    (reads : true ∈ s.pendingReads → s.itemToMonitor.isSome → s.AtIntervals)
    (listens : s.ListensFor item.attributeId) : s.SamplingInvariant where
  disabled hdis := absurd hdis hmode
  terminated hnone := absurd (hitem.symm.trans hnone) (Option.some_ne_none item)
  listener := listener
  semantic := semantic
  timer := timer
  reads := reads
  listens _ hitem' := Option.some.inj (hitem.symm.trans hitem') ▸ listens

variable {s s' : MonitoredItem V}

section

variable (h : s.SamplingInvariant)
include h

lemma SamplingInvariant.of_recorded
    (hmode : s.monitoringMode ≠ .Disabled) (hitem : s.itemToMonitor.isSome) (hs' : s.Recorded s') :
    s'.SamplingInvariant := by
  obtain ⟨queue, overflow, old, version, rfl⟩ := hs'
  obtain ⟨item, hitem⟩ := Option.isSome_iff_exists.mp hitem
  exact .of_item hmode hitem h.listener h.semantic h.timer h.reads (h.listens item hitem)

lemma SamplingInvariant.of_registered (hreg : ¬ s.Unregistered) :
    s.monitoringMode ≠ .Disabled ∧ s.itemToMonitor.isSome := by
  constructor
  · intro hmode
    exact hreg (h.disabled hmode).2
  · by_contra hnone
    exact hreg (h.terminated (Option.not_isSome_iff_eq_none.mp hnone)).2

lemma SamplingInvariant.stopped :
    s.stopped.SamplingInvariant where
  disabled hmode := ⟨(h.disabled hmode).1, rfl, rfl, rfl, rfl⟩
  terminated hnone := ⟨(h.terminated hnone).1, rfl, rfl, rfl, rfl⟩
  listener := h.listener
  semantic := rfl
  timer hid := by cases hid
  reads hreads hitem := ⟨(h.reads hreads hitem).1, rfl⟩
  listens item hitem :=
    ⟨fun hvalue => ⟨rfl, rfl, ((h.listens item hitem).1 hvalue).2.2⟩, fun _ => rfl, fun _ => rfl⟩

lemma SamplingInvariant.stop_sampling
    (hitem : s.itemToMonitor.isSome) : s._stop_sampling = .ok s.stopped :=
  _stop_sampling_eq hitem h.semantic h.timer

lemma SamplingInvariant.start_sampling
    (recordInitialValue : Bool) : (s._start_sampling recordInitialValue).SamplingInvariant := by
  unfold _start_sampling
  split_ifs
  · exact h
  · exact { h with }

end

lemma _start_sampling_queue (s : MonitoredItem V) (recordInitialValue : Bool) :
    (s._start_sampling recordInitialValue).queue = s.queue := by
  unfold _start_sampling
  split_ifs <;> rfl

lemma SamplingInvariant.with_mode (h : s.SamplingInvariant)
    {mode : MonitoringMode} (hmode : mode ≠ .Disabled) :
    { s with monitoringMode := mode }.SamplingInvariant :=
  { h with disabled := fun hdis => absurd hdis hmode }

/-- `setMonitoringMode`. -/
lemma setMonitoringMode_invariant (h : s.SamplingInvariant)
    (hitem : s.itemToMonitor.isSome) (mode : MonitoringMode) :
    Succeeds (s.setMonitoringMode mode) fun r => r.1.SamplingInvariant := by
  unfold setMonitoringMode
  split_ifs
  · exact ⟨_, rfl, h⟩
  · cases mode with
    | Invalid => exact ⟨_, rfl, h⟩
    | Disabled =>
      have hstop := _stop_sampling_eq (s := { s with monitoringMode := .Disabled }) hitem
        h.semantic h.timer
      rw [hstop]
      refine ⟨_, rfl, ?_⟩
      have hstopped := h.stopped
      exact
        { hstopped with
          disabled := fun _ => ⟨rfl, rfl, rfl, rfl, rfl⟩
          terminated := fun _ => ⟨rfl, rfl, rfl, rfl, rfl⟩ }
    | Sampling | Reporting => exact ⟨_, rfl, (h.with_mode (by decide)).start_sampling _⟩

lemma SamplingInvariant.with_parameters (h : s.SamplingInvariant)
    (params : RevisedMonitoringParameters)
    (hival : s.samplingInterval ≠ 0 → params.samplingInterval ≠ 0) :
    { s with toRevisedMonitoringParameters := params }.SamplingInvariant :=
  { h with
    timer := fun hid => ⟨hival (h.timer hid).1, (h.timer hid).2⟩
    reads := fun hreads hitem => ⟨hival (h.reads hreads hitem).1, (h.reads hreads hitem).2⟩ }

variable {monitoringParameters : MonitoringParameters}

/-- `_set_parameters`, for an interval that is not negative. -/
lemma _set_parameters_eq (s : MonitoredItem V)
    {interval : ℚ} (hival : monitoringParameters.samplingInterval = some interval)
    (hpos : 0 ≤ interval) :
    ∃ parameters : RevisedMonitoringParameters,
      s._set_parameters monitoringParameters =
        .ok { s with toRevisedMonitoringParameters := parameters } ∧
      (interval ≠ 0 → parameters.samplingInterval ≠ 0) := by
  unfold _set_parameters
  rw [hival]
  dsimp only
  rw [if_neg (not_lt.mpr hpos)]
  split_ifs
  · exact ⟨_, rfl, fun hne => _adjust_sampling_interval_ne_zero hne _⟩
  · exact ⟨_, rfl, fun hne => _adjust_sampling_interval_ne_zero hne _⟩

/-- What `_set_parameters` changes. -/
lemma _set_parameters_eq_ok (h : s._set_parameters monitoringParameters = .ok s') :
    ∃ parameters : RevisedMonitoringParameters,
      s' = { s with toRevisedMonitoringParameters := parameters } := by
  unfold _set_parameters at h
  split at h
  · cases h
  · split_ifs at h <;> cases h <;> exact ⟨_, rfl⟩

lemma adjust_queue_eq (s : MonitoredItem V) :
    ∃ queue overflow, s._adjust_queue_to_match_new_queue_size =
      { s with queue := queue, overflow := overflow } ∧ (s.queue = [] → queue = []) := by
  unfold _adjust_queue_to_match_new_queue_size
  dsimp only
  split_ifs <;> exact ⟨_, _, rfl, fun hnil => by simp [hnil]⟩

lemma SamplingInvariant.with_queue (h : s.SamplingInvariant)
    {queue : List (QueueItem V)} (overflow : Bool) (hqueue : s.queue = [] → queue = []) :
    { s with queue := queue, overflow := overflow }.SamplingInvariant :=
  { h with
    disabled := fun hmode => ⟨hqueue (h.disabled hmode).1, (h.disabled hmode).2⟩
    terminated := fun hnone => ⟨hqueue (h.terminated hnone).1, (h.terminated hnone).2⟩ }

/-- `modify`. -/
lemma modify_invariant (h : s.SamplingInvariant) {interval : ℚ}
    (hival : monitoringParameters.samplingInterval = some interval) (hpos : 0 ≤ interval) :
    Succeeds (s.modify monitoringParameters) fun s' =>
      s'.SamplingInvariant ∧ (s.queue = [] → s'.queue = []) := by
  -- an item that is sampled at intervals is not made to listen
  obtain ⟨requested, hreqd, hle, hne⟩ : ∃ requested : ℚ,
      (if s.samplingInterval ≠ 0 && monitoringParameters.samplingInterval = some 0 then
        { monitoringParameters with samplingInterval := some minimumSamplingInterval }
      else monitoringParameters).samplingInterval = some requested ∧ 0 ≤ requested ∧
      (s.samplingInterval ≠ 0 → requested ≠ 0) := by
    have hminimum : (0 : ℚ) < minimumSamplingInterval := by
      unfold minimumSamplingInterval
      norm_num
    split_ifs with hforced
    · exact ⟨_, rfl, hminimum.le, fun _ => hminimum.ne'⟩
    · refine ⟨interval, hival, hpos, fun hold hzero => hforced ?_⟩
      rw [hival, hzero]
      simp [hold]
  obtain ⟨params, hset, hparameters⟩ := _set_parameters_eq s hreqd hle
  obtain ⟨queue, overflow, hadjust, hqueue⟩ :=
    adjust_queue_eq { s with toRevisedMonitoringParameters := params }
  have hinv := (h.with_parameters params fun hold => hparameters (hne hold)).with_queue
    overflow hqueue
  unfold modify
  dsimp only
  rw [hset]
  refine ⟨_, rfl, ?_⟩
  rw [hadjust]
  split_ifs
  · refine ⟨hinv.start_sampling false, fun hnil => ?_⟩
    rw [_start_sampling_queue]
    exact hqueue hnil
  · exact ⟨hinv, hqueue⟩

lemma removed_invariant (h : s.SamplingInvariant) (hitem : s.itemToMonitor.isSome) :
    Succeeds s.removed fun s' => s'.SamplingInvariant ∧ s'.queue = [] := by
  unfold removed terminate dispose
  rw [h.stop_sampling hitem]
  have hstop := h.stopped.stop_sampling hitem
  simp only [bind, Except.bind, pure, Except.pure, hstop]
  refine ⟨_, rfl, ?_, rfl⟩
  exact
    { disabled := fun _ => ⟨rfl, rfl, rfl, rfl, rfl⟩
      terminated := fun _ => ⟨rfl, rfl, rfl, rfl, rfl⟩
      listener := fun hlsn => by cases hlsn
      semantic := rfl
      timer := fun hid => by cases hid
      reads := fun _ hsome => by cases hsome
      listens := fun item hsome => by cases hsome }

lemma _on_opcua_event_succeeds {eventFields : Option (List V)}
    (hfilt : s.filter = some .eventFilter)
    (htakes : ∀ fields, eventFields = some fields →
      s.Takes (.eventFieldList s.clientHandle fields)) :
    Succeeds (s._on_opcua_event eventFields) s.Recorded := by
  unfold _on_opcua_event
  rw [if_neg (not_not.mpr hfilt)]
  cases eventFields with
  | none => exact ⟨s, rfl, .refl s⟩
  | some fields =>
    obtain ⟨queue, overflow, heq⟩ := _enqueue_notification_eq (htakes fields rfl)
    exact ⟨_, heq, queue, overflow, s.oldDataValue, s._semantic_version, rfl⟩

lemma extract_eq (s : MonitoredItem V) (bForce : Bool) :
    ∃ queue overflow semantic_version notifications,
      (s.extractMonitoredItemNotifications bForce).2 =
        { s with
            queue := queue
            overflow := overflow
            _semantic_version := semantic_version
            _triggeredNotifications := notifications } ∧ (s.queue = [] → queue = []) := by
  unfold extractMonitoredItemNotifications
  dsimp only
  split
  · exact ⟨_, _, _, _, rfl, id⟩
  · split_ifs
    · exact ⟨_, _, _, _, rfl, id⟩
    · split
      · split_ifs
        · exact ⟨_, _, _, _, rfl, fun _ => rfl⟩
        · exact ⟨_, _, _, _, rfl, fun _ => rfl⟩
      · exact ⟨_, _, _, _, rfl, fun _ => rfl⟩

section

variable (h : s.SamplingInvariant)
include h

/-- The harvest, and the callback of `trigger`. -/
lemma SamplingInvariant.extracted (bForce : Bool) (notifs : Option (List (QueueItem V))) :
    (s.extractMonitoredItemNotifications bForce).2.SamplingInvariant ∧
      { (s.extractMonitoredItemNotifications bForce).2 with
          _triggeredNotifications := notifs }.SamplingInvariant := by
  obtain ⟨queue, overflow, version, triggered, heq, hqueue⟩ := extract_eq s bForce
  have hinv := h.with_queue overflow hqueue
  rw [heq]
  exact ⟨{ hinv with }, { hinv with }⟩

lemma SamplingInvariant.with_pending (pendingStarts : List Bool) {pendingReads : List Bool}
    (pendingTimers pendingSamplings pendingTriggers : ℕ) (is_sampling : Bool)
    (hreads : ∀ b ∈ pendingReads, b ∈ s.pendingReads) :
    { s with
        pendingStarts := pendingStarts
        pendingReads := pendingReads
        pendingTimers := pendingTimers
        pendingSamplings := pendingSamplings
        pendingTriggers := pendingTriggers
        _is_sampling := is_sampling }.SamplingInvariant :=
  { h with
    reads := fun htrue hitem => h.reads (hreads true htrue) hitem
    listens := fun item hitem =>
      ⟨fun hvalue => by
        obtain ⟨hid, hcallback, hnil⟩ := (h.listens item hitem).1 hvalue
        refine ⟨hid, hcallback, List.eq_nil_iff_forall_not_mem.mpr fun b hb => ?_⟩
        have hmem := hreads b hb
        rw [hnil] at hmem
        exact absurd hmem not_mem_nil, (h.listens item hitem).2⟩ }

lemma SamplingInvariant.set_timer
    (hmode : s.monitoringMode ≠ .Disabled) (hid : s._samplingId = none)
    (hitem : s.itemToMonitor = some item) (hvalue : item.attributeId = AttributeIds.Value)
    (hival : s.AtIntervals) : Succeeds s._set_timer SamplingInvariant := by
  refine ⟨_, _set_timer_eq (by rw [hitem]; rfl) hival.1 hid, ?_⟩
  exact .of_item hmode hitem h.listener h.semantic (fun _ => hival) h.reads
    ⟨fun hne => absurd hvalue hne, (h.listens item hitem).2⟩

lemma on_sampling_timer_invariant (hmode : s._samplingId.isSome → s.monitoringMode ≠ .Invalid) :
    Succeeds s._on_sampling_timer SamplingInvariant := by
  unfold _on_sampling_timer
  split_ifs with hdis hid
  · exact ⟨_, rfl, h⟩
  · have hcheck : (s.monitoringMode = .Sampling || s.monitoringMode = .Reporting : Bool) = true := by
      have hinval := hmode hid
      cases hm : s.monitoringMode with
      | Disabled => exact absurd hm hdis
      | Invalid => exact absurd hm hinval
      | Sampling => rfl
      | Reporting => rfl
    rw [check_of_true hcheck]
    simp only [bind, Except.bind, pure, Except.pure]
    split_ifs
    · exact ⟨_, rfl, h⟩
    · exact ⟨_, rfl, h.with_pending s.pendingStarts s.pendingTimers (s.pendingSamplings + 1)
        s.pendingTriggers true fun b hb => hb⟩
  · exact ⟨_, rfl, h⟩

lemma SamplingInvariant.with_semanticVersion
    (semantic_version : ℕ) : (s.withSemanticVersion semantic_version).SamplingInvariant := by
  have hnone : (s.withSemanticVersion semantic_version).itemToMonitor = none ↔
      s.itemToMonitor = none := Option.map_eq_none_iff
  have hsome : (s.withSemanticVersion semantic_version).itemToMonitor.isSome =
      s.itemToMonitor.isSome := Option.isSome_map
  exact
    { h with
      terminated := fun hterminated => h.terminated (hnone.mp hterminated)
      listener := fun hlsn => hsome.trans (h.listener hlsn)
      reads := fun hreads hitem => h.reads hreads (hsome.symm.trans hitem)
      listens := fun item hitem => by
        obtain ⟨old, hold, rfl⟩ := Option.map_eq_some_iff.mp hitem
        have hlistens := h.listens old hold
        cases hnode : old.node with
        | Variable minimumSamplingInterval version | Object => exact hlistens
        | Method => exact hlistens }

end

variable [VariantOperations V]

lemma SamplingInvariant.recorded_of_registered (h : s.SamplingInvariant)
    (hreg : ¬ s.Unregistered) (hrec : s.Recordable dataValue false indexRange) :
    Succeeds (s._on_value_changed dataValue indexRange) SamplingInvariant := by
  obtain ⟨hmode, hitem⟩ := h.of_registered hreg
  exact (recordValue_succeeds hrec).mono fun s' hs' => h.of_recorded hmode hitem hs'

lemma on_node_disposed_invariant (h : s.SamplingInvariant)
    (hlsn : s._on_node_disposed_listener) (hmode : s.monitoringMode ≠ .Disabled)
    {time : ℤ}
    (hrec : s.Recordable
      { value := VariantOperations.undefined
        statusCode := .BadNodeIdInvalid
        sourceTimestamp := some time } false none) :
    Succeeds (s._on_node_disposed time) SamplingInvariant := by
  have hitem := h.listener hlsn
  refine succeeds_bind (recordValue_succeeds hrec) fun s' hs' => ?_
  have hinv := h.of_recorded hmode hitem hs'
  have hitem' : s'.itemToMonitor.isSome := by
    obtain ⟨queue, overflow, old, version, rfl⟩ := hs'
    exact hitem
  rw [hinv.stop_sampling hitem']
  refine ⟨_, rfl, ?_⟩
  have hstop := hinv.stopped
  exact { hstop with listener := fun hfalse => by cases hfalse }

variable {dataValue : Option (DataValue V)}

section

variable (h : s.SamplingInvariant)
include h

/-- A read of `samplingFunc` is completed. -/
lemma sampled_invariant (hrec : s._samplingId.isSome → ∀ value, dataValue = some value →
      s.Recordable value false none) :
    Succeeds (s.sampled dataValue) SamplingInvariant := by
  unfold sampled
  split_ifs with hid
  · exact ⟨_, rfl, h⟩
  · have hsome : s._samplingId.isSome := by
      rw [Option.isNone_iff_eq_none] at hid
      exact Option.isSome_iff_ne_none.mpr hid
    have hreg : ¬ s.Unregistered := by
      rintro ⟨hnone, -⟩
      rw [hnone] at hsome
      cases hsome
    refine succeeds_bind (P := SamplingInvariant) ?_ fun s' hs' =>
      ⟨_, rfl, hs'.with_pending s'.pendingStarts s'.pendingTimers s'.pendingSamplings
        s'.pendingTriggers false fun b hb => hb⟩
    cases dataValue with
    | none => exact ⟨s, rfl, h⟩
    | some value => exact h.recorded_of_registered hreg (hrec hsome value rfl)

section

variable (hmode : s.monitoringMode ≠ .Disabled) (hitem : s.itemToMonitor = some item)
include hmode hitem

lemma initialValueAcquired_invariant {setsTimer : Bool} (htimer : setsTimer = true →
      s._samplingId = none ∧ item.attributeId = AttributeIds.Value ∧ s.AtIntervals)
    (hrec : ∀ value, dataValue = some value → s.Recordable value true none) :
    Succeeds (s.initialValueAcquired setsTimer dataValue) SamplingInvariant := by
  have hsome : s.itemToMonitor.isSome := by rw [hitem]; rfl
  refine succeeds_bind (P := s.Recorded) ?_ fun s' hs' => ?_
  · cases dataValue with
    | none => exact ⟨s, rfl, .refl s⟩
    | some value => exact recordValue_succeeds (hrec value rfl)
  · have hinv := h.of_recorded hmode hsome hs'
    split_ifs with hsets
    · obtain ⟨hid, hvalue, hival⟩ := htimer hsets
      obtain ⟨queue, overflow, old, version, rfl⟩ := hs'
      exact hinv.set_timer hmode hid hitem hvalue hival
    · exact ⟨_, rfl, hinv⟩

lemma acquireInitialValue_invariant (hvalue : item.attributeId = AttributeIds.Value)
    {setsTimer : Bool} (htimer : setsTimer = true → s._samplingId = none ∧ s.AtIntervals)
    (hrec : ∀ o, s.oldDataValue = some o →
      { s with oldDataValue := none }.Recordable o true none) :
    Succeeds (s.__acquireInitialValue item.node setsTimer) SamplingInvariant := by
  have hsets : setsTimer = true →
      s._samplingId = none ∧ item.attributeId = AttributeIds.Value ∧ s.AtIntervals :=
    fun hsets => ⟨(htimer hsets).1, hvalue, (htimer hsets).2⟩
  unfold __acquireInitialValue
  split
  · cases hold : s.oldDataValue with
    | none =>
      refine ⟨_, rfl, .of_item hmode hitem h.listener h.semantic h.timer (fun htrue hsome => ?_)
        ⟨fun hne => absurd hvalue hne, (h.listens item hitem).2⟩⟩
      rcases List.mem_append.mp htrue with hmem | hmem
      · exact h.reads hmem hsome
      · exact (htimer (List.mem_singleton.mp hmem).symm).2
    | some o =>
      have hreset : { s with oldDataValue := none }.SamplingInvariant :=
        h.of_recorded hmode (by rw [hitem]; rfl) ⟨_, _, none, _, rfl⟩
      refine initialValueAcquired_invariant hreset hmode hitem hsets fun value heq => ?_
      obtain rfl := Option.some.inj heq
      exact hrec o hold
  · exact initialValueAcquired_invariant h hmode hitem hsets fun value heq => by cases heq

end

lemma start_invariant (recordInitialValue : Bool) (attributeValue : DataValue V)
    (hadm : ∀ item, s.itemToMonitor = some item → s.monitoringMode ≠ .Disabled ∧
      (recordInitialValue → item.attributeId ≠ AttributeIds.EventNotifier →
        if item.attributeId = AttributeIds.Value then
          ∀ o, s.oldDataValue = some o → { s with oldDataValue := none }.Recordable o true none
        else s.Recordable attributeValue true none)) :
    Succeeds (s.__start_sampling recordInitialValue attributeValue) SamplingInvariant := by
  unfold __start_sampling
  cases hitem : s.itemToMonitor with
  | none => exact ⟨s, rfl, h⟩
  | some item =>
    obtain ⟨hmode, hrecord⟩ := hadm item hitem
    have hsome : s.itemToMonitor.isSome := by rw [hitem]; rfl
    have hstop := h.stopped
    rw [h.stop_sampling hsome]
    simp only [bind, Except.bind, pure, Except.pure]
    by_cases hevent : item.attributeId = AttributeIds.EventNotifier
    · rw [if_pos hevent]
      exact ⟨_, rfl, .of_item hmode hitem h.listener rfl hstop.timer hstop.reads
        ⟨(hstop.listens item hitem).1, fun _ => rfl, fun hne => absurd hevent hne⟩⟩
    by_cases hvalue : item.attributeId = AttributeIds.Value
    · rw [if_neg (not_not.mpr hvalue)]
      by_cases hival : s.stopped.samplingInterval = 0
      · rw [if_pos hival]
        -- the item listens to the changes of the value
        have hlisten : { s.stopped with
            _value_changed_callback := true
            _semantic_changed_callback := true }.SamplingInvariant :=
          .of_item hmode hitem h.listener rfl nofun
            (fun hreads hsome' => absurd hival (h.reads hreads hsome').1)
            ⟨fun hne => absurd hvalue hne, (hstop.listens item hitem).2⟩
        split_ifs with hinit
        · refine acquireInitialValue_invariant hlisten hmode hitem hvalue
            (fun hfalse => by cases hfalse) fun o hold => ?_
          have hrec := hrecord hinit hevent
          rw [if_pos hvalue] at hrec
          exact hrec o hold
        · exact ⟨_, rfl, hlisten⟩
      · rw [if_neg hival]
        split_ifs with hinit
        · refine acquireInitialValue_invariant hstop hmode hitem hvalue
            (fun _ => ⟨rfl, hival, rfl⟩) fun o hold => ?_
          have hrec := hrecord hinit hevent
          rw [if_pos hvalue] at hrec
          exact hrec o hold
        · exact hstop.set_timer hmode rfl hitem hvalue ⟨hival, rfl⟩
    · rw [if_pos hvalue]
      -- the item listens to the changes of the attribute
      have hlisten : { s.stopped with
          samplingInterval := 0
          samplingInterval_revised := .inl rfl
          _attribute_changed_callback := true }.SamplingInvariant := by
        have hnil : s.pendingReads = [] := ((h.listens item hitem).1 hvalue).2.2
        refine .of_item hmode hitem h.listener rfl nofun (fun hreads _ => ?_)
          ⟨(hstop.listens item hitem).1, fun hor => absurd hor (not_or.mpr ⟨hvalue, hevent⟩),
            fun _ => rfl⟩
        exact absurd (hnil ▸ hreads) not_mem_nil
      split_ifs with hinit
      · have hrec := hrecord hinit hevent
        rw [if_neg hvalue] at hrec
        refine (recordValue_succeeds (s := { s.stopped with
          samplingInterval := 0
          samplingInterval_revised := .inl rfl
          _attribute_changed_callback := true }) hrec).mono fun s' hs' => ?_
        exact hlisten.of_recorded hmode hsome hs'
      · exact ⟨_, rfl, hlisten⟩

lemma resendInitialValue_invariant
    (hmode : s.monitoringMode ≠ .Disabled) (hitem : s.itemToMonitor.isSome)
    {attributeValue : DataValue V}
    (htakes : s.queue = [] → s.Takes (.monitoredItemNotification s.clientHandle
      (s.oldDataValue.getD attributeValue))) :
    Succeeds (s.resendInitialValue attributeValue) SamplingInvariant := by
  unfold resendInitialValue
  split_ifs with hempty
  · exact ⟨_, rfl, h⟩
  · simp only [Bool.or_eq_true, not_or, decide_eq_true_eq, not_not] at hempty
    have henqueue : { s with oldDataValue := none }.Enqueueable
        (s.oldDataValue.getD attributeValue) :=
      ⟨fun old hold => (by cases hold), htakes hempty.2⟩
    obtain ⟨s', hs', queue, overflow, old, version, rfl⟩ := _enqueue_value_succeeds henqueue
    exact ⟨_, hs', h.of_recorded hmode hitem ⟨queue, overflow, old, version, rfl⟩⟩

end

variable {event : MonitoredItemEvent V}

/-- **An admissible event** that reaches the item fails no assertion and keeps the invariant. -/
lemma react_succeeds (h : s.SamplingInvariant)
    (hdeliv : s.delivers event) (hadm : s.Admissible event) :
    Succeeds (s.react event) SamplingInvariant := by
  have hcond := hadm hdeliv
  cases event with
  | setMonitoringMode mode =>
    obtain ⟨r, hr, hinv⟩ := setMonitoringMode_invariant h hdeliv mode
    exact ⟨r.1, congrArg (Except.map fst) hr, hinv⟩
  | modify params =>
    obtain ⟨interval, hival, hpos⟩ := hcond
    exact (modify_invariant h hival hpos).mono fun s' hs' => hs'.1
  | terminate => exact (removed_invariant h hdeliv).mono fun s' hs' => hs'.1
  | valueChanged value indexRange =>
    refine h.recorded_of_registered (fun hunreg => ?_) hcond
    simp [delivers, hunreg.2.1] at hdeliv
  | attributeChanged value =>
    refine h.recorded_of_registered (fun hunreg => ?_) hcond
    simp [delivers, hunreg.2.2.1] at hdeliv
  | semanticChanged value =>
    refine h.recorded_of_registered (fun hunreg => ?_) hcond
    simp [delivers, h.semantic, hunreg.2.1] at hdeliv
  | opcuaEvent eventFields =>
    have hreg : ¬ s.Unregistered := by
      intro hunreg
      simp [delivers, hunreg.2.2.2] at hdeliv
    obtain ⟨hmode, hitem⟩ := h.of_registered hreg
    exact (_on_opcua_event_succeeds hcond.1 hcond.2).mono fun s' hs' =>
      h.of_recorded hmode hitem hs'
  | nodeDisposed time =>
    exact on_node_disposed_invariant h hdeliv hcond.1 hcond.2
  | semanticVersion semantic_version => exact ⟨_, rfl, h.with_semanticVersion semantic_version⟩
  | linkedModes linkedModes =>
    exact ⟨_, rfl, { h with }⟩
  | timer =>
    exact ⟨_, rfl, h.with_pending s.pendingStarts (s.pendingTimers + 1) s.pendingSamplings
      s.pendingTriggers s._is_sampling fun b hb => hb⟩
  | onSamplingTimer =>
    exact on_sampling_timer_invariant (h.with_pending s.pendingStarts (s.pendingTimers - 1)
      s.pendingSamplings s.pendingTriggers s._is_sampling fun b hb => hb) hcond
  | sampled value =>
    exact sampled_invariant (h.with_pending s.pendingStarts s.pendingTimers
      (s.pendingSamplings - 1) s.pendingTriggers s._is_sampling fun b hb => hb) hcond
  | start attributeValue =>
    exact start_invariant (h.with_pending s.pendingStarts.tail s.pendingTimers s.pendingSamplings
      s.pendingTriggers s._is_sampling fun b hb => hb) (s.pendingStarts.headD false)
      attributeValue hcond
  | initialValue index value =>
    have hindex : index < s.pendingReads.length := by simpa [delivers] using hdeliv
    have herased := h.with_pending s.pendingStarts s.pendingTimers s.pendingSamplings
      s.pendingTriggers s._is_sampling
      fun b (hb : b ∈ s.pendingReads.eraseIdx index) => List.mem_of_mem_eraseIdx hb
    have hget : s.pendingReads.getD index false ∈ s.pendingReads := by
      rw [List.getD_eq_getElem?_getD, List.getElem?_eq_getElem hindex]
      exact List.getElem_mem hindex
    cases hitem : s.itemToMonitor with
    | none =>
      -- the item was removed while its initial value was read
      exact ⟨_, initialValueAcquired_terminated
        (s := { s with pendingReads := s.pendingReads.eraseIdx index }) hitem _ value, herased⟩
    | some item =>
      obtain ⟨hmode, htimer, hrec⟩ := hcond (by rw [hitem]; rfl)
      refine initialValueAcquired_invariant herased hmode hitem (fun hsets => ?_) hrec
      rw [hsets] at hget
      have hvalue : item.attributeId = AttributeIds.Value := by
        by_contra hne
        rw [((h.listens item hitem).1 hne).2.2] at hget
        cases hget
      exact ⟨htimer hsets, hvalue, h.reads hget (by rw [hitem]; rfl)⟩
  | trigger =>
    exact ⟨_, rfl, h.with_pending s.pendingStarts s.pendingTimers s.pendingSamplings
      (s.pendingTriggers + 1) s._is_sampling fun b hb => hb⟩
  | triggered =>
    exact ⟨_, rfl, ((h.with_pending s.pendingStarts s.pendingTimers s.pendingSamplings
      (s.pendingTriggers - 1) s._is_sampling fun b hb => hb).extracted true _).2⟩
  | extract => exact ⟨_, rfl, (h.extracted false none).1⟩
  | resendInitialValue attributeValue =>
    exact resendInitialValue_invariant h hcond.1 hdeliv hcond.2

/-- **The step lemma**. -/
lemma step_invariant (s : MonitoredItem V) (event : MonitoredItemEvent V)
    (h : s.SamplingInvariant) (hadm : s.Admissible event) :
    (step s event).1.SamplingInvariant ∧ .assertionFailed ∉ (step s event).2 := by
  unfold step
  split_ifs with hdeliv
  · obtain ⟨s', hs', hinv⟩ := react_succeeds h hdeliv hadm
    rw [hs']
    refine ⟨hinv, fun hmem => ?_⟩
    cases event with
    | extract => cases List.mem_singleton.mp hmem
    | _ => cases hmem
  · exact ⟨h, not_mem_nil⟩

/-- **An idle item**: an event that reaches a disabled or a terminated item leaves its queue
empty. -/
lemma react_idle (h : s.SamplingInvariant)
    (hidle : s.monitoringMode = .Disabled ∨ s.itemToMonitor = none)
    (hdeliv : s.delivers event) (hadm : s.Admissible event) :
    Succeeds (s.react event) fun s' => s'.queue = [] := by
  have hcond := hadm hdeliv
  obtain ⟨hqueue, hid, hvalue, hattribute, hevent⟩ : s.queue = [] ∧ s.Unregistered :=
    hidle.elim h.disabled h.terminated
  have hdis : s.itemToMonitor.isSome → s.monitoringMode = .Disabled := by
    intro hsome
    refine hidle.resolve_right fun hnone => ?_
    rw [hnone] at hsome
    cases hsome
  cases event with
  | setMonitoringMode mode =>
    show Succeeds ((s.setMonitoringMode mode).map fst) _
    unfold setMonitoringMode
    split_ifs with hsame
    · exact ⟨_, rfl, hqueue⟩
    · cases mode with
      | Disabled => exact absurd (hdis hdeliv).symm hsame
      | Invalid => exact ⟨_, rfl, hqueue⟩
      | Sampling | Reporting => exact ⟨_, rfl, (_start_sampling_queue _ _).trans hqueue⟩
  | modify params =>
    obtain ⟨interval, hival, hpos⟩ := hcond
    exact (modify_invariant h hival hpos).mono fun s' hs' => hs'.2 hqueue
  | terminate => exact (removed_invariant h hdeliv).mono fun s' hs' => hs'.2
  | valueChanged value indexRange => simp [delivers, hvalue] at hdeliv
  | attributeChanged value => simp [delivers, hattribute] at hdeliv
  | semanticChanged value => simp [delivers, h.semantic, hvalue] at hdeliv
  | opcuaEvent eventFields => simp [delivers, hevent] at hdeliv
  | nodeDisposed time => exact absurd (hdis (h.listener hdeliv)) hcond.1
  | timer => simp [delivers, hid] at hdeliv
  | onSamplingTimer =>
    show Succeeds (_on_sampling_timer _) _
    unfold _on_sampling_timer
    simp only [hid, Option.isSome_none, Bool.false_eq_true, if_false, ite_self]
    exact ⟨_, rfl, hqueue⟩
  | sampled value =>
    show Succeeds (MonitoredItem.sampled _ _) _
    simp only [hid, isNone_none, if_true]
    exact ⟨_, rfl, hqueue⟩
  | start attributeValue =>
    cases hitem : s.itemToMonitor with
    | none =>
      show Succeeds (__start_sampling _ _ _) _
      simp only [hitem]
      exact ⟨_, rfl, hqueue⟩
    | some item => exact absurd (hdis (by rw [hitem]; rfl)) (hcond item hitem).1
  | initialValue index value =>
    cases hitem : s.itemToMonitor with
    | none =>
      exact ⟨_, initialValueAcquired_terminated
        (s := { s with pendingReads := s.pendingReads.eraseIdx index }) hitem _ value, hqueue⟩
    | some item =>
      have hsome : s.itemToMonitor.isSome := by rw [hitem]; rfl
      exact absurd (hdis hsome) (hcond hsome).1
  | semanticVersion semantic_version | linkedModes linkedModes | trigger => exact ⟨_, rfl, hqueue⟩
  | triggered =>
    obtain ⟨queue, overflow, version, notifications, heq, hnil⟩ :=
      extract_eq { s with pendingTriggers := s.pendingTriggers - 1 } true
    refine ⟨_, rfl, ?_⟩
    unfold MonitoredItem.triggered
    dsimp only
    rw [heq]
    exact hnil hqueue
  | extract =>
    obtain ⟨queue, overflow, version, notifications, heq, hnil⟩ := extract_eq s false
    refine ⟨_, rfl, ?_⟩
    rw [heq]
    exact hnil hqueue
  | resendInitialValue attributeValue => exact absurd (hdis hdeliv) hcond.1

lemma step_idle (h : s.SamplingInvariant) (hadm : s.Admissible event)
    (hidle : s.monitoringMode = .Disabled ∨ s.itemToMonitor = none) :
    (step s event).1.queue = [] := by
  unfold step
  split_ifs with hdeliv
  · obtain ⟨s', hs', hqueue⟩ := react_idle h hidle hdeliv hadm
    rw [hs']
    exact hqueue
  · exact hidle.elim (fun hdis => (h.disabled hdis).1) fun hnone => (h.terminated hnone).1

omit [VariantOperations V] in
lemma new_invariant {itemId : ℕ} {itemToMonitor : ItemToMonitor}
    (h : MonitoredItem.new itemId itemToMonitor monitoringParameters = .ok s) :
    s.SamplingInvariant := by
  obtain ⟨s₁, hs₁, hs⟩ := Except.bind_eq_ok_iff.mp h
  obtain ⟨params, rfl⟩ := _set_parameters_eq_ok hs₁
  cases hs
  exact
    { disabled := fun _ => ⟨rfl, rfl, rfl, rfl, rfl⟩
      terminated := fun hnone => by cases hnone
      listener := fun _ => rfl
      semantic := rfl
      timer := fun hid => by cases hid
      reads := fun hreads => absurd hreads not_mem_nil
      listens := fun item _ => ⟨fun _ => ⟨rfl, rfl, rfl⟩, fun _ => rfl, fun _ => rfl⟩ }

end MonitoredItem

/-! ### Runs -/

open MonitoredItem (step)

variable {V : Type} [VariantOperations V]

/-- Numeric scalars, or no value. -/
abbrev ScalarVariant := Option ℤ

instance : VariantOperations ScalarVariant where
  undefined := none
  sameVariant v1 v2 := v1 = v2
  sameObject _ _ := false
  isOutsideDeadbandNone oldValue newValue := oldValue ≠ newValue
  isOutsideDeadbandAbsolute oldValue newValue deadbandValue :=
    match oldValue, newValue, deadbandValue with
    | some v1, some v2, some deadband => deadband < |(v1 : ℚ) - v2|
    | _, _, _ => true
  isOutsideDeadbandPercent oldValue newValue deadbandValue :=
    match oldValue, newValue, deadbandValue with
    | some v1, some v2, some deadband => deadband < |(v1 : ℚ) - v2|
    | _, _, _ => true
  extractRange dataValue _ := dataValue

/-- A variable whose value is monitored. -/
def valueOfVariable : ItemToMonitor :=
  { attributeId := AttributeIds.Value, indexRange := .empty, node := .Variable 0 1 }

/-- The parameters of an item with a queue of ten notifications. -/
def tenNotifications (samplingInterval : ℚ) : MonitoringParameters :=
  { clientHandle := 1
    samplingInterval := some samplingInterval
    filter := none
    queueSize := 10
    discardOldest := true }

end NodeOpcua
