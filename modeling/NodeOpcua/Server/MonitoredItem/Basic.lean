import NodeOpcua.NumericRange.Basic
import NodeOpcua.Server.Notification

set_option autoImplicit false

/-!
# Monitored items

The `MonitoredItem` class of `node-opcua-server`: its queue, the recording of values, the sampling
of the node it monitors, and the requests that change it.

## Main definitions

* `VariantOperations`.
* `MonitoredItem`.
* `MonitoredItem._enqueue_notification`, `extractMonitoredItemNotifications`.
* `MonitoredItem.recordValue`, `MonitoredItem.__start_sampling`, `_stop_sampling`, `_set_timer`.
* `MonitoredItem.setMonitoringMode`, `modify`, `removed`.

## Design

A method is a computation over the item that stops, with the item as it is then, at an assertion
that fails or at an internal error. What was handed to the event loop and refers to the item, such
as a `setImmediate` of `_start_sampling`, is kept in the item until it runs. The node is a part of
`itemToMonitor`: `dispose` takes both away.
-/

namespace NodeOpcua

open Except (check)

/-! ### Values and filters -/

/-- `MonitoringMode`. -/
inductive MonitoringMode
  | Disabled
  | Sampling
  | Reporting
  | Invalid
  deriving DecidableEq, Repr

namespace AttributeIds

def INVALID : ℕ := 999
def EventNotifier : ℕ := 12
def Value : ℕ := 13

end AttributeIds

/-- `DataChangeTrigger`. -/
inductive DataChangeTrigger
  | Status
  | StatusValue
  | StatusValueTimestamp
  deriving DecidableEq, Repr

namespace DeadbandType

def None : ℕ := 0
def Absolute : ℕ := 1
def Percent : ℕ := 2

end DeadbandType

/-- `DataChangeFilter`. The value of the deadband is none when it is not a finite number. -/
structure DataChangeFilter where
  trigger : DataChangeTrigger
  deadbandType : ℕ
  deadbandValue : Option ℚ
  deriving DecidableEq

/-- `MonitoringFilter`. -/
inductive MonitoringFilter
  | dataChangeFilter (filter : DataChangeFilter)
  | eventFilter
  | aggregateFilter
  deriving DecidableEq

/-- **What the recording of a value takes from the code of variants.** -/
class VariantOperations (V : Type) where
  /-- The value of a data value that has none. -/
  undefined : V
  /-- `sameVariant`. -/
  sameVariant : V → V → Bool
  /-- The two values are one object, other than a date. -/
  sameObject : V → V → Bool
  /-- `isOutsideDeadbandNone`, of an old and a new value. -/
  isOutsideDeadbandNone : V → V → Bool
  /-- `isOutsideDeadbandAbsolute`. -/
  isOutsideDeadbandAbsolute : V → V → Option ℚ → Bool
  /-- `isOutsideDeadbandPercent`, with the range of the node. -/
  isOutsideDeadbandPercent : V → V → Option ℚ → Bool
  /-- `extractRange`. -/
  extractRange : DataValue V → NumericRange → DataValue V

export VariantOperations (sameVariant sameObject isOutsideDeadbandNone isOutsideDeadbandAbsolute
  isOutsideDeadbandPercent extractRange)

section Filters

variable {V : Type} [VariantOperations V]

/-- `badDataUnavailable`: what an item has as its last value before it has one. -/
def badDataUnavailable : DataValue V :=
  { value := VariantOperations.undefined, statusCode := .BadDataUnavailable }

/-- `sameDataValue`, without timestamps to return. -/
def sameDataValue (v1 v2 : DataValue V) : Bool :=
  v1.statusCode = v2.statusCode &&
    (v1.sourceTimestamp = v2.sourceTimestamp && v1.sourcePicoseconds = v2.sourcePicoseconds) &&
    sameVariant v1.value v2.value

omit [VariantOperations V] in
/-- `statusCodeHasChanged`. -/
def statusCodeHasChanged (newDataValue oldDataValue : DataValue V) : Bool :=
  newDataValue.statusCode ≠ oldDataValue.statusCode

/-- `valueHasChanged`; `none` is an assertion about the deadband that fails. -/
def valueHasChanged (newDataValue oldDataValue : DataValue V) (deadbandType : ℕ)
    (deadbandValue : Option ℚ) : Option Bool :=
  if deadbandType = DeadbandType.None then
    some (isOutsideDeadbandNone oldDataValue.value newDataValue.value)
  else if deadbandType = DeadbandType.Absolute then
    some (isOutsideDeadbandAbsolute oldDataValue.value newDataValue.value deadbandValue)
  else if deadbandType = DeadbandType.Percent &&
      deadbandValue.any fun value => 0 ≤ value && value ≤ 100 then
    some (isOutsideDeadbandPercent oldDataValue.value newDataValue.value deadbandValue)
  else none

/-- `timestampHasChanged`. -/
def timestampHasChanged (t1 t2 : Option ℤ) : Bool :=
  if t1.isSome || t2.isNone || t2.isSome || t1.isNone then true
  else if t1.isNone || t2.isNone then false
  else t1 ≠ t2

/-- `apply_dataChange_filter`. -/
def apply_dataChange_filter (filter : DataChangeFilter) (newDataValue oldDataValue : DataValue V) :
    Option Bool :=
  match filter.trigger with
  | .Status => some (statusCodeHasChanged newDataValue oldDataValue)
  | .StatusValue =>
    if statusCodeHasChanged newDataValue oldDataValue then some true
    else valueHasChanged newDataValue oldDataValue filter.deadbandType filter.deadbandValue
  | .StatusValueTimestamp =>
    if timestampHasChanged newDataValue.sourceTimestamp oldDataValue.sourceTimestamp ||
        statusCodeHasChanged newDataValue oldDataValue then some true
    else valueHasChanged newDataValue oldDataValue filter.deadbandType filter.deadbandValue

end Filters

namespace QueueItem

variable {V : Type}

/-- `setSemanticChangeBit`, of a notification. -/
def setSemanticChangeBit : QueueItem V → QueueItem V
  | .monitoredItemNotification clientHandle value =>
    .monitoredItemNotification clientHandle
      { value with statusCode := value.statusCode.makeStatusCode StatusCode.SemanticChanged }
  | .eventFieldList clientHandle eventFields => .eventFieldList clientHandle eventFields

/-- `_setOverflowBit`; `none` is the assertion that the status of the value is Good. -/
def _setOverflowBit : QueueItem V → Option (QueueItem V)
  | .monitoredItemNotification clientHandle value =>
    if value.statusCode = .Good then
      some (.monitoredItemNotification clientHandle
        { value with
            statusCode := value.statusCode.makeStatusCode
              (StatusCode.Overflow ||| StatusCode.InfoTypeDataValue) })
    else none
  | .eventFieldList clientHandle eventFields => some (.eventFieldList clientHandle eventFields)

/-- The overflow bit of a value is taken away. -/
def unsetOverflowBit : QueueItem V → QueueItem V
  | .monitoredItemNotification clientHandle value =>
    .monitoredItemNotification clientHandle
      (if value.statusCode.hasOverflowBit then
        { value with
            statusCode := value.statusCode.unset
              (StatusCode.Overflow ||| StatusCode.InfoTypeDataValue) }
      else value)
  | .eventFieldList clientHandle eventFields => .eventFieldList clientHandle eventFields

end QueueItem

/-- `setSemanticChangeBit`, of a data value. -/
def setSemanticChangeBit {V : Type} (dataValue : DataValue V) : DataValue V :=
  { dataValue with statusCode := dataValue.statusCode.makeStatusCode StatusCode.SemanticChanged }

/-! ### The state -/

/-- A node, of one of the classes that can be monitored. -/
inductive MonitoredNode
  | Variable (minimumSamplingInterval : ℚ) (semantic_version : ℕ)
  | Object
  | Method
  deriving DecidableEq

/-- `semantic_version`: only variables have one. -/
def MonitoredNode.semantic_version : MonitoredNode → Option ℕ
  | .Variable _ semantic_version => some semantic_version
  | _ => none

/-- `minimumSamplingInterval || 0`. -/
def MonitoredNode.minimumSamplingInterval : MonitoredNode → ℚ
  | .Variable minimumSamplingInterval _ => minimumSamplingInterval
  | _ => 0

/-- `itemToMonitor`, with the node. -/
structure ItemToMonitor where
  attributeId : ℕ
  indexRange : NumericRange
  node : MonitoredNode
  deriving DecidableEq

def minimumSamplingInterval : ℚ := 50
def maximumSamplingInterval : ℚ := 1000 * 60 * 60
def maxQueueSize : ℕ := 5000

/-- `MonitoringParameters`. The sampling interval is none when it is not a finite number. -/
structure MonitoringParameters where
  clientHandle : ℕ
  samplingInterval : Option ℚ
  filter : Option MonitoringFilter
  queueSize : ℕ
  discardOldest : Bool

/-- **Revised parameters**: what the adjustments guarantee. -/
structure RevisedMonitoringParameters where
  clientHandle : ℕ
  samplingInterval : ℚ
  filter : Option MonitoringFilter
  queueSize : ℕ
  discardOldest : Bool
  samplingInterval_revised : samplingInterval = 0 ∨ minimumSamplingInterval ≤ samplingInterval
  queueSize_pos : 0 < queueSize

section

variable (samplingInterval node_minimumSamplingInterval : ℚ)

/-- `_adjust_sampling_interval`, of an interval that is not negative. -/
def _adjust_sampling_interval : ℚ :=
  if samplingInterval = 0 then
    if node_minimumSamplingInterval = 0 then samplingInterval
    else max minimumSamplingInterval node_minimumSamplingInterval
  else
    let samplingInterval :=
      min (max samplingInterval minimumSamplingInterval) maximumSamplingInterval
    if node_minimumSamplingInterval = 0 then samplingInterval
    else max samplingInterval node_minimumSamplingInterval

lemma _adjust_sampling_interval_revised :
    _adjust_sampling_interval samplingInterval node_minimumSamplingInterval = 0 ∨
      minimumSamplingInterval ≤
        _adjust_sampling_interval samplingInterval node_minimumSamplingInterval := by
  have hbound : minimumSamplingInterval ≤
      min (max samplingInterval minimumSamplingInterval) maximumSamplingInterval :=
    le_min (le_max_right _ _) (by unfold minimumSamplingInterval maximumSamplingInterval; norm_num)
  unfold _adjust_sampling_interval
  split_ifs with h h'
  · exact .inl h
  · exact .inr (le_max_left _ _)
  · exact .inr hbound
  · exact .inr (le_max_of_le_left hbound)

end

lemma _adjust_sampling_interval_ne_zero {sampling : ℚ} (h : sampling ≠ 0)
    (node_minimumSamplingInterval : ℚ) :
    _adjust_sampling_interval sampling node_minimumSamplingInterval ≠ 0 := by
  have hbound : (0 : ℚ) < min (max sampling minimumSamplingInterval)
      maximumSamplingInterval := by
    unfold minimumSamplingInterval maximumSamplingInterval
    exact lt_min (lt_of_lt_of_le (by norm_num) (le_max_right _ _)) (by norm_num)
  unfold _adjust_sampling_interval
  rw [if_neg h]
  split_ifs with h'
  · exact hbound.ne'
  · exact (lt_max_of_lt_left hbound).ne'

/-- `_adjust_queue_size`. -/
def _adjust_queue_size (queueSize : ℕ) : ℕ := max 1 (min queueSize maxQueueSize)

/-- **A monitored item.** The notifications of the queue carry the last recorded values. -/
structure MonitoredItem (V : Type) extends RevisedMonitoringParameters where
  monitoredItemId : ℕ
  monitoringMode : MonitoringMode
  itemToMonitor : Option ItemToMonitor
  queue : List (QueueItem V)
  overflow : Bool
  /-- None is `badDataUnavailable`. -/
  oldDataValue : Option (DataValue V)
  _semantic_version : Option ℕ
  /-- The interval of the common timer the item is registered with. -/
  _samplingId : Option ℚ
  _is_sampling : Bool
  _on_opcua_event_received_callback : Bool
  _attribute_changed_callback : Bool
  _value_changed_callback : Bool
  _semantic_changed_callback : Bool
  _on_node_disposed_listener : Bool
  /-- The modes of the items that `_linkedItems` names, as `getMonitoredItem` finds them. -/
  linkedModes : List MonitoringMode
  _triggeredNotifications : Option (List (QueueItem V))
  /-- The pending `setImmediate` of `_start_sampling`. -/
  pendingStarts : List Bool
  /-- The pending reads of `__acquireInitialValue`; those marked true set the timer at the end. -/
  pendingReads : List Bool
  /-- The pending `setImmediate` of `_on_sampling_timer`. -/
  pendingTimers : ℕ
  /-- The calls of `samplingFunc` that are not answered. -/
  pendingSamplings : ℕ
  /-- The pending `setImmediate` of `trigger`. -/
  pendingTriggers : ℕ

namespace MonitoredItem

variable {V : Type}

/-- `_set_parameters`. -/
def _set_parameters (s : MonitoredItem V) (monitoredParameters : MonitoringParameters) :
    Except (MonitoredItem V) (MonitoredItem V) :=
  match monitoredParameters.samplingInterval with
  | none => .error s
  | some samplingInterval =>
    let s : MonitoredItem V :=
      if monitoredParameters.clientHandle ≠ 0 && monitoredParameters.clientHandle ≠ 4294967295 then
        { s with clientHandle := monitoredParameters.clientHandle }
      else s
    if samplingInterval < 0 then .error s
    else
      let node_minimumSamplingInterval :=
        (s.itemToMonitor.map fun item => item.node.minimumSamplingInterval).getD 0
      .ok
        { s with
            samplingInterval :=
              _adjust_sampling_interval samplingInterval node_minimumSamplingInterval
            discardOldest := monitoredParameters.discardOldest
            queueSize := _adjust_queue_size monitoredParameters.queueSize
            filter := monitoredParameters.filter
            samplingInterval_revised := _adjust_sampling_interval_revised _ _
            queueSize_pos := by unfold _adjust_queue_size; omega }

/-- `new MonitoredItem(options)` and `setNode`. The parameters are set before the node is known. -/
def new (monitoredItemId : ℕ) (itemToMonitor : ItemToMonitor)
    (monitoringParameters : MonitoringParameters) : Except (MonitoredItem V) (MonitoredItem V) := do
  let s : MonitoredItem V :=
    { clientHandle := 0
      samplingInterval := 0
      filter := none
      queueSize := 1
      discardOldest := true
      samplingInterval_revised := .inl rfl
      queueSize_pos := Nat.one_pos
      monitoredItemId := monitoredItemId
      monitoringMode := .Invalid
      itemToMonitor := none
      queue := []
      overflow := false
      oldDataValue := none
      _semantic_version := itemToMonitor.node.semantic_version
      _samplingId := none
      _is_sampling := false
      _on_opcua_event_received_callback := false
      _attribute_changed_callback := false
      _value_changed_callback := false
      _semantic_changed_callback := false
      _on_node_disposed_listener := true
      linkedModes := []
      _triggeredNotifications := none
      pendingStarts := []
      pendingReads := []
      pendingTimers := 0
      pendingSamplings := 0
      pendingTriggers := 0 }
  let s ← s._set_parameters monitoringParameters
  return { s with itemToMonitor := some itemToMonitor }

/-! ### The queue -/

section

variable (s : MonitoredItem V)

/-- `_empty_queue`. -/
def _empty_queue : MonitoredItem V := { s with queue := [], overflow := false }

/-- `_enqueue_notification`. -/
def _enqueue_notification (notification : QueueItem V) :
    Except (MonitoredItem V) (MonitoredItem V) :=
  if s.queueSize = 1 then .ok { s with queue := [notification] }
  else if s.discardOldest then
    if s.queueSize < s.queue.length + 1 then
      match (s.queue ++ [notification]).tail with
      | [] => .error s
      | front :: queue =>
        match front._setOverflowBit with
        | none => .error { s with overflow := true, queue := front :: queue }
        | some marked => .ok { s with overflow := true, queue := marked :: queue }
    else .ok { s with queue := s.queue ++ [notification] }
  else if s.queue.length < s.queueSize then .ok { s with queue := s.queue ++ [notification] }
  else
    match notification._setOverflowBit with
    | none => .error { s with overflow := true }
    | some marked => .ok { s with overflow := true, queue := s.queue.dropLast ++ [marked] }

/-- `_adjust_queue_to_match_new_queue_size`. -/
def _adjust_queue_to_match_new_queue_size : MonitoredItem V :=
  let s :=
    if s.queueSize < s.queue.length then
      if s.discardOldest then { s with queue := s.queue.drop (s.queue.length - s.queueSize) }
      else
        { s with
            queue := (s.queue.take s.queueSize).dropLast ++
              s.queue.drop (s.queue.length - 1) }
    else s
  if s.queueSize ≤ 1 then
    { s with
        overflow := false
        queue := if s.queue.length = 1 then s.queue.map QueueItem.unsetOverflowBit else s.queue }
  else s

/-- `hasMonitoredItemNotifications`. -/
def hasMonitoredItemNotifications : Bool :=
  s.queue ≠ [] || s._triggeredNotifications.any fun notifications => notifications ≠ []

/-- `extractMonitoredItemNotifications`: the notifications, and the item without them. -/
def extractMonitoredItemNotifications (bForce : Bool) :
    List (QueueItem V) × MonitoredItem V :=
  match (if !bForce && s.monitoringMode = .Sampling then s._triggeredNotifications else none) with
  | some notifications1 => (notifications1, { s with _triggeredNotifications := none })
  | none =>
    if !bForce && s.monitoringMode ≠ .Reporting then ([], s)
    else
      let notifications := s.queue
      let s := s._empty_queue
      let semantic_version := s.itemToMonitor.bind fun item => item.node.semantic_version
      match s._semantic_version, semantic_version with
      | some version, some nodeVersion =>
        if notifications ≠ [] && version < nodeVersion then
          (notifications.modifyLast QueueItem.setSemanticChangeBit,
            { s with _semantic_version := some nodeVersion })
        else (notifications, s)
      | _, _ => (notifications, s)

end

instance : MonitoredItemInterface V (MonitoredItem V) where
  hasMonitoredItemNotifications := hasMonitoredItemNotifications
  extractMonitoredItemNotifications s := s.extractMonitoredItemNotifications false

/-- `trigger`. -/
def trigger (s : MonitoredItem V) : MonitoredItem V :=
  { s with pendingTriggers := s.pendingTriggers + 1 }

/-- The callback of `trigger`. -/
def triggered (s : MonitoredItem V) : MonitoredItem V :=
  let extracted := s.extractMonitoredItemNotifications true
  { extracted.2 with
      _triggeredNotifications := some (s._triggeredNotifications.getD [] ++ extracted.1) }

/-! ### The recording of values -/

section Recording

variable [VariantOperations V]

/-- `_enqueue_value`. -/
def _enqueue_value (s : MonitoredItem V) (dataValue : DataValue V) :
    Except (MonitoredItem V) (MonitoredItem V) := do
  let s ← check (s.oldDataValue.all fun oldDataValue =>
    !sameObject dataValue.value oldDataValue.value) s
  { s with oldDataValue := some dataValue }._enqueue_notification
    (.monitoredItemNotification s.clientHandle dataValue)

omit [VariantOperations V] in
/-- `_enqueue_event`. -/
def _enqueue_event (s : MonitoredItem V) (eventFields : List V) :
    Except (MonitoredItem V) (MonitoredItem V) :=
  s._enqueue_notification (.eventFieldList s.clientHandle eventFields)

/-- `apply_filter`. -/
def apply_filter (s : MonitoredItem V) (newDataValue : DataValue V) : Option Bool :=
  match s.oldDataValue with
  | none => some true
  | some oldDataValue =>
    match s.filter with
    | some (.dataChangeFilter filter) => apply_dataChange_filter filter newDataValue oldDataValue
    | _ =>
      some (newDataValue.statusCode ≠ oldDataValue.statusCode ||
        !sameVariant newDataValue.value oldDataValue.value)

/-- What `recordValue` makes of a value: it is rejected, or recorded because the semantic of the
node has changed, or recorded as a new value. -/
inductive Recording (V : Type)
  | rejected
  | semanticChanged (dataValue : DataValue V)
  | recorded (dataValue : DataValue V)

/-- The change is within the range of the item; `none` is an assertion that fails. -/
def indexRangeOverlaps (itemToMonitor : ItemToMonitor) (indexRange : Option NumericRange) :
    Option Bool :=
  match indexRange with
  | none => some true
  | some indexRange => NumericRange.overlap indexRange itemToMonitor.indexRange

/-- The value differs from the last one and passes the filter; `none` is an assertion that
fails. -/
def passesChangeTest (s : MonitoredItem V) (dataValue : DataValue V) (skipChangeTest : Bool) :
    Option Bool :=
  if skipChangeTest then some true
  else if sameDataValue dataValue (s.oldDataValue.getD badDataUnavailable) then some false
  else s.apply_filter dataValue

/-- The value within the range of the item is the last one. -/
def sameInIndexRange (s : MonitoredItem V) (itemToMonitor : ItemToMonitor)
    (dataValue : DataValue V) : Bool :=
  !itemToMonitor.indexRange.isEmpty &&
    s.oldDataValue.any fun oldDataValue => sameVariant dataValue.value oldDataValue.value

/-- The tests of `recordValue`; `none` is an assertion that fails. -/
def recording (s : MonitoredItem V) (dataValue : DataValue V) (skipChangeTest : Bool)
    (indexRange : Option NumericRange) : Option (Recording V) :=
  match s.itemToMonitor with
  | none => some .rejected
  | some itemToMonitor =>
    let extracted := extractRange dataValue itemToMonitor.indexRange
    if itemToMonitor.node.semantic_version ≠ s._semantic_version then
      some (.semanticChanged (setSemanticChangeBit extracted))
    else
      match indexRangeOverlaps itemToMonitor indexRange with
      | none => none
      | some false => some .rejected
      | some true =>
        match s.passesChangeTest extracted skipChangeTest with
        | none => none
        | some false => some .rejected
        | some true =>
          if s.sameInIndexRange itemToMonitor extracted then some .rejected
          else some (.recorded extracted)

omit [VariantOperations V] in
/-- `triggerLinkedItems`, less the triggers themselves: only items that are disabled, sampling or
reporting may be linked. -/
def triggerLinkedItems (s : MonitoredItem V) : Except (MonitoredItem V) (MonitoredItem V) :=
  check (s.linkedModes.all fun mode => mode ≠ .Invalid) s

/-- `recordValue`. -/
def recordValue (s : MonitoredItem V) (dataValue : DataValue V) (skipChangeTest : Bool)
    (indexRange : Option NumericRange) : Except (MonitoredItem V) (MonitoredItem V) :=
  match s.recording dataValue skipChangeTest indexRange with
  | none => .error s
  | some .rejected => .ok s
  | some (.semanticChanged dataValue) =>
    { s with
        _semantic_version := s.itemToMonitor.bind fun item => item.node.semantic_version
        }._enqueue_value dataValue
  | some (.recorded dataValue) => do
    let s ← s.triggerLinkedItems
    s._enqueue_value dataValue

/-- `_on_value_changed`. -/
def _on_value_changed (s : MonitoredItem V) (dataValue : DataValue V)
    (indexRange : Option NumericRange) : Except (MonitoredItem V) (MonitoredItem V) :=
  s.recordValue dataValue false indexRange

omit [VariantOperations V] in
/-- `_on_opcua_event`, with the fields of an event that passes the filter. -/
def _on_opcua_event (s : MonitoredItem V) (eventFields : Option (List V)) :
    Except (MonitoredItem V) (MonitoredItem V) :=
  if s.filter ≠ some .eventFilter then .error s
  else
    match eventFields with
    | none => .ok s
    | some eventFields => s._enqueue_event eventFields

/-- `resendInitialValue`, with the value of the attribute. -/
def resendInitialValue (s : MonitoredItem V) (attributeValue : DataValue V) :
    Except (MonitoredItem V) (MonitoredItem V) :=
  if s.itemToMonitor.isNone || s.queue ≠ [] then .ok s
  else { s with oldDataValue := none }._enqueue_value (s.oldDataValue.getD attributeValue)

end Recording

/-! ### Sampling -/

section

variable (s : MonitoredItem V)

/-- `_clear_timer`. -/
def _clear_timer : Except (MonitoredItem V) (MonitoredItem V) :=
  if s._samplingId.isSome then do
    let s ← check (0 < s.samplingInterval) s
    return { s with _samplingId := none }
  else .ok s

/-- `_set_timer`. -/
def _set_timer : Except (MonitoredItem V) (MonitoredItem V) :=
  if s.itemToMonitor.isNone then .ok s
  else do
    let s ← check (minimumSamplingInterval ≤ s.samplingInterval) s
    let s ← check s._samplingId.isNone s
    return { s with _samplingId := some s.samplingInterval }

/-- `_stop_sampling`. -/
def _stop_sampling : Except (MonitoredItem V) (MonitoredItem V) := do
  let s ← check s.itemToMonitor.isSome s
  let s : MonitoredItem V :=
    { s with _on_opcua_event_received_callback := false, _attribute_changed_callback := false }
  let s ← check (!s._value_changed_callback || s._samplingId.isNone) s
  let s : MonitoredItem V := { s with _value_changed_callback := false }
  let s ← check (!s._semantic_changed_callback || s._samplingId.isNone) s
  let s : MonitoredItem V := { s with _semantic_changed_callback := false }
  s._clear_timer

/-- `_start_sampling`. -/
def _start_sampling (recordInitialValue : Bool) : MonitoredItem V :=
  if s.itemToMonitor.isNone then s
  else { s with oldDataValue := none, pendingStarts := s.pendingStarts ++ [recordInitialValue] }

/-- `_on_sampling_timer`. -/
def _on_sampling_timer : Except (MonitoredItem V) (MonitoredItem V) :=
  if s.monitoringMode = .Disabled then .ok s
  else if s._samplingId.isSome then do
    let s ← check (s.monitoringMode = .Sampling || s.monitoringMode = .Reporting) s
    if s._is_sampling then return s
    return { s with _is_sampling := true, pendingSamplings := s.pendingSamplings + 1 }
  else .ok s

end

section Starting

variable [VariantOperations V] (s : MonitoredItem V)

/-- The end of `__acquireInitialValue`: the value that was read is recorded, and the timer is set
when the item is sampled. -/
def initialValueAcquired (setsTimer : Bool)
    (dataValue : Option (DataValue V)) : Except (MonitoredItem V) (MonitoredItem V) := do
  let s ← (match dataValue with
    | none => .ok s
    | some dataValue => s.recordValue dataValue true none)
  if setsTimer then s._set_timer else return s

/-- `__acquireInitialValue`: a variable is read, unless its last value is known. -/
def __acquireInitialValue (node : MonitoredNode) (setsTimer : Bool) :
    Except (MonitoredItem V) (MonitoredItem V) :=
  match node with
  | .Variable _ _ =>
    match s.oldDataValue with
    | none => .ok { s with pendingReads := s.pendingReads ++ [setsTimer] }
    | some o => { s with oldDataValue := none }.initialValueAcquired setsTimer (some o)
  | _ => s.initialValueAcquired setsTimer none

/-- `__start_sampling`, with the value of the attribute when it is not a Value. -/
def __start_sampling (recordInitialValue : Bool) (attributeValue : DataValue V) :
    Except (MonitoredItem V) (MonitoredItem V) :=
  match s.itemToMonitor with
  | none => .ok s
  | some itemToMonitor => do
    let s ← s._stop_sampling
    if itemToMonitor.attributeId = AttributeIds.EventNotifier then
      return { s with _on_opcua_event_received_callback := true }
    else if itemToMonitor.attributeId ≠ AttributeIds.Value then
      -- only the Value attribute is sampled
      let s : MonitoredItem V :=
        { s with
            samplingInterval := 0
            samplingInterval_revised := .inl rfl
            _attribute_changed_callback := true }
      if recordInitialValue then s.recordValue attributeValue true none else return s
    else if s.samplingInterval = 0 then
      let s : MonitoredItem V :=
        { s with _value_changed_callback := true, _semantic_changed_callback := true }
      if recordInitialValue then s.__acquireInitialValue itemToMonitor.node false else return s
    else if recordInitialValue then s.__acquireInitialValue itemToMonitor.node true
    else s._set_timer

/-- The callback of `samplingFunc`, with the value that was read. -/
def sampled (newDataValue : Option (DataValue V)) :
    Except (MonitoredItem V) (MonitoredItem V) :=
  if s._samplingId.isNone then .ok s
  else do
    let s ← (match newDataValue with
      | none => .ok s
      | some newDataValue => s._on_value_changed newDataValue none)
    return { s with _is_sampling := false }

/-- `_on_node_disposed`. -/
def _on_node_disposed (sourceTimestamp : ℤ) :
    Except (MonitoredItem V) (MonitoredItem V) := do
  let s ← s._on_value_changed
    { value := VariantOperations.undefined
      statusCode := .BadNodeIdInvalid
      sourceTimestamp := some sourceTimestamp } none
  let s ← s._stop_sampling
  return { s with _on_node_disposed_listener := false }

end Starting

/-! ### Requests -/

section

variable (s : MonitoredItem V)

/-- `setMonitoringMode`. -/
def setMonitoringMode (monitoringMode : MonitoringMode) :
    Except (MonitoredItem V) (MonitoredItem V × StatusCode) :=
  if monitoringMode = s.monitoringMode then .ok (s, .BadNothingToDo)
  else
    match monitoringMode with
    | .Invalid => .ok (s, .BadInvalidArgument)
    | .Disabled => do
      let s ← { s with monitoringMode := .Disabled }._stop_sampling
      return (s._empty_queue, .Good)
    | .Sampling | .Reporting =>
      let recordInitialValue :=
        s.monitoringMode = MonitoringMode.Invalid || s.monitoringMode = MonitoringMode.Disabled
      .ok ({ s with monitoringMode := monitoringMode }._start_sampling recordInitialValue, .Good)

/-- `modify`, less the validation of the filter, which changes nothing. -/
def modify (monitoringParameters : MonitoringParameters) :
    Except (MonitoredItem V) (MonitoredItem V) := do
  let old_samplingInterval := s.samplingInterval
  let monitoringParameters :=
    if old_samplingInterval ≠ 0 && monitoringParameters.samplingInterval = some 0 then
      { monitoringParameters with samplingInterval := some minimumSamplingInterval }
    else monitoringParameters
  let s ← s._set_parameters monitoringParameters
  let s := s._adjust_queue_to_match_new_queue_size
  return (if old_samplingInterval ≠ s.samplingInterval then s._start_sampling false else s)

/-- `terminate`. -/
def terminate : Except (MonitoredItem V) (MonitoredItem V) := s._stop_sampling

/-- `dispose`. -/
def dispose : Except (MonitoredItem V) (MonitoredItem V) := do
  let s ← s._stop_sampling
  return { s with
    _on_node_disposed_listener := false
    oldDataValue := none
    queue := []
    itemToMonitor := none
    filter := none
    monitoredItemId := 0
    _semantic_version := none }

end

/-- The removal of the item by `removeMonitoredItem`. -/
def removed (s : MonitoredItem V) : Except (MonitoredItem V) (MonitoredItem V) := do
  let s ← s.terminate
  s.dispose

end MonitoredItem

end NodeOpcua
